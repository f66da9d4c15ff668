import ReactiveKernel.Proofs.Effect.Consistency

/-!
# Kernels with the same state and like records

Nothing in the state depends on the instruments, and nothing in it depends on the order in which a
set of subscriptions is walked. So a command that is given to two kernels with the same state gets
the same answer from both and leaves both with the same state; what differs is what was recorded. A
likeness says which records count as alike, and in which orders lists of subscriptions may come. If
the journal, the sink and the walks keep records alike, then so does every command.
-/

namespace ReactiveKernel

variable {κ α β : Type}

/-- What two kernels with the same state may differ in. -/
structure Likeness (κ : Type) where
  /-- The records of two kernels are alike. -/
  alike : Kernel κ → Kernel κ → Prop
  /-- The lists that two walks of the same set may give. -/
  lists : List SubscriptionId → List SubscriptionId → Prop
  /-- The answers that the instruments of two kernels with like records may give. -/
  sees : (p : Probe) → p.Reply → p.Reply → Prop

namespace Likeness

/-- Two orders in which every set is walked alike. -/
def Orders (L : Likeness κ) (order order' : EdgeOrder κ) : Prop :=
  ∀ s site ids, L.lists (order.arrange s site ids) (order'.arrange s site ids)

/-- Two kernels with the same state and like records. -/
structure Alike (L : Likeness κ) (k k' : Kernel κ) : Prop where
  /-- The states are the same. -/
  state : k.toState = k'.toState
  /-- The records are alike. -/
  records : L.alike k k'

/-- What keeps records alike. -/
structure Sound (L : Likeness κ) : Prop where
  /-- Records are alike whatever the states are. -/
  mapState : ∀ {k k'} (f g : State κ → State κ), L.alike k k' →
    L.alike (k.mapState f) (k'.mapState g)
  /-- The same entry in both journals. -/
  note : ∀ {k k'} (o : Occurrence κ), L.alike k k' → L.alike (k.note o) (k'.note o)
  /-- The same announcement. -/
  emit : ∀ {k k'} (e : TraceEvent), L.alike k k' → L.alike (k.emit e) (k'.emit e)
  /-- The same use of the instruments. -/
  probe : ∀ {k k'} (p : Probe), L.alike k k' →
    L.sees p (p.perform k).1 (p.perform k').1 ∧ L.alike (p.perform k).2 (p.perform k').2
  /-- Lists in like order have the same members. -/
  members : ∀ {ids ids'}, L.lists ids ids' → ∀ id, id ∈ ids ↔ id ∈ ids'
  /-- One walk after another. -/
  append : ∀ {a a' b b'}, L.lists a a' → L.lists b b' → L.lists (a ++ b) (a' ++ b')
  /-- A change that is delivered along both lists. -/
  notifyAll : ∀ {ids ids'} (source : NodeId) (change : Change) {k k'}, L.lists ids ids' →
    L.Alike k k' → L.alike (ids.foldl (Kernel.notifyOne source change) k)
      (ids'.foldl (Kernel.notifyOne source change) k')
  /-- Subscriptions that are removed along both lists. -/
  removeEdges : ∀ {ids ids'} {k k'}, L.lists ids ids' → L.Alike k k' →
    L.alike (k.removeEdges ids) (k'.removeEdges ids')

/-- The results of a request that two kernels refuse alike or do alike. -/
inductive Results (L : Likeness κ) :
    Except Fault (α × Kernel κ) → Except Fault (α × Kernel κ) → Prop
  /-- Both refuse it, with the same fault. -/
  | error (fault : Fault) : Results L (.error fault) (.error fault)
  /-- Both do it, with the same answer. -/
  | ok (a : α) {k k' : Kernel κ} : L.Alike k k' → Results L (.ok (a, k)) (.ok (a, k'))

variable {L : Likeness κ} {k k' : Kernel κ} {order order' : EdgeOrder κ}

/-- A request begins with a look at the state that both kernels have. -/
theorem Results.bind {x : Except Fault β} {f g : β → Except Fault (α × Kernel κ)}
    (rest : ∀ b, x = .ok b → Results L (f b) (g b)) : Results L (x >>= f) (x >>= g) := by
  cases x with
  | error fault => exact .error fault
  | ok b => exact rest b rfl

/-- Either both refuse it or both do it. -/
theorem Results.cases {x y : Except Fault (α × Kernel κ)} (h : L.Results x y) :
    (∃ fault, x = .error fault ∧ y = .error fault) ∨
      ∃ a m m', x = .ok (a, m) ∧ y = .ok (a, m') ∧ L.Alike m m' := by
  cases h with
  | error fault => exact .inl ⟨fault, rfl, rfl⟩
  | ok a alike => exact .inr ⟨a, _, _, rfl, rfl, alike⟩

/-- The same set is walked alike. -/
theorem Alike.walk (h : L.Alike k k') (orders : L.Orders order order') (site : EdgeSite)
    (ids : SubscriptionSet) : L.lists (k.walk order site ids) (k'.walk order' site ids) := by
  unfold Kernel.walk
  rw [← h.state]
  exact orders _ _ _

namespace Sound

open Kernel State

section

variable (sound : L.Sound)

include sound

theorem alike_mapState (f : State κ → State κ) (h : L.Alike k k') :
    L.Alike (k.mapState f) (k'.mapState f) :=
  ⟨congrArg f h.state, sound.mapState f f h.records⟩

theorem alike_note (o : Occurrence κ) (h : L.Alike k k') : L.Alike (k.note o) (k'.note o) :=
  ⟨h.state, sound.note o h.records⟩

theorem alike_log (e : LogEvent) (h : L.Alike k k') : L.Alike (k.log e) (k'.log e) :=
  sound.alike_note _ h

theorem alike_emit (e : TraceEvent) (h : L.Alike k k') : L.Alike (k.emit e) (k'.emit e) :=
  ⟨h.state, sound.emit e h.records⟩

/-- An announcement that says in which generation it is made. -/
theorem alike_emit_stamped (e : Nat → TraceEvent) (h : L.Alike k k') :
    L.Alike (k.emit (e k.generation)) (k'.emit (e k'.generation)) := by
  rw [← h.state]
  exact sound.alike_emit _ h

theorem alike_announceField (node : NodeId) (field : String) (old new : Value)
    (h : L.Alike k k') :
    L.Alike (k.announceField node field old new) (k'.announceField node field old new) := by
  unfold announceField
  rw [← h.state]
  exact sound.alike_log _ (sound.alike_emit _ h)

/-! New nodes and subscriptions. -/

theorem results_createNode (typeName : String) (content : Content) (owner : Option ClosureId)
    (h : L.Alike k k') :
    L.Results (k.createNode typeName content owner) (k'.createNode typeName content owner) := by
  unfold createNode
  rw [← h.state]
  refine .bind fun _ _ => .ok _ (sound.alike_mapState _ ?_)
  exact sound.alike_log _ (sound.alike_emit _ (sound.alike_mapState _ h))

theorem results_createClosure (template : String) (parent : Option ClosureId)
    (h : L.Alike k k') :
    L.Results (k.createClosure template parent) (k'.createClosure template parent) := by
  unfold createClosure
  rw [← h.state]
  refine .bind fun _ _ => .ok _ (sound.alike_mapState _ ?_)
  exact sound.alike_emit _ (sound.alike_mapState _ h)

theorem alike_catchUp (id : SubscriptionId) (source : NodeId) (changedAt : Nat)
    (h : L.Alike k k') :
    L.Alike (k.catchUp id source changedAt) (k'.catchUp id source changedAt) := by
  unfold catchUp
  rw [← h.state]
  split
  · exact sound.alike_log _ (sound.alike_mapState _ h)
  · exact h

theorem results_subscribe (source target : NodeId) (selector : Selector) (code : κ)
    (h : L.Alike k k') : L.Results (k.subscribe source target selector code)
      (k'.subscribe source target selector code) := by
  unfold subscribe
  rw [← h.state]
  refine .bind fun changedAt _ => .bind fun _ _ => .ok _ (sound.alike_catchUp _ source changedAt ?_)
  exact sound.alike_mapState _ (sound.alike_emit _ (sound.alike_mapState _ h))

theorem alike_removeEdge (id : SubscriptionId) (h : L.Alike k k') :
    L.Alike (k.removeEdge id) (k'.removeEdge id) := by
  unfold removeEdge
  rw [← h.state]
  split
  · exact h
  · exact sound.alike_emit _ (sound.alike_mapState _ h)

end

variable (sound : L.Sound) (orders : L.Orders order order')

include sound orders

/-! Delivery of changes. -/

theorem alike_notify (source : NodeId) (change : Change) (h : L.Alike k k') :
    L.Alike (k.notify order source change) (k'.notify order' source change) := by
  have noted := sound.alike_note (.delivered source change) h
  have walks := h.walk orders (.outgoing source) (k.toState.outgoing source)
  refine ⟨?_, ?_⟩
  · have pending : (k.notify order source change).schedule.pending =
        (k'.notify order' source change).schedule.pending := by
      refine Std.ExtTreeSet.ext_mem fun id => ?_
      simp only [notify, mem_pending_notifyAll, mem_walk, toState_note, h.state]
    calc (k.notify order source change).toState
        = k.toState.withPending (k.notify order source change).schedule.pending :=
          toState_notify k order source change
      _ = k'.toState.withPending (k'.notify order' source change).schedule.pending := by
          rw [pending, h.state]
      _ = (k'.notify order' source change).toState :=
          (toState_notify k' order' source change).symm
  · unfold notify
    rw [← h.state]
    exact sound.notifyAll source change walks noted

theorem alike_carry (owner : ClosureId) (h : L.Alike k k') :
    L.Alike (k.carry order owner) (k'.carry order' owner) := by
  unfold carry
  rw [← h.state]
  split
  · exact h
  · exact sound.alike_notify orders _ _ (sound.alike_mapState _ h)

theorem alike_datumChanged (d : DatumId) (change : Change) (h : L.Alike k k') :
    L.Alike (k.datumChanged order d change) (k'.datumChanged order' d change) := by
  have notified := sound.alike_notify orders (.datum d) change h
  unfold datumChanged
  simp only [← notified.state]
  cases ((k.notify order (.datum d) change).datums[d]?).bind Datum.owner with
  | none => exact notified
  | some owner => exact sound.alike_carry orders owner notified

/-! Changes. -/

theorem results_setDatumField (d : DatumId) (field : String) (value : Value)
    (h : L.Alike k k') : L.Results (k.setDatumField order d field value)
      (k'.setDatumField order' d field value) := by
  unfold setDatumField
  rw [← h.state]
  refine .bind fun x _ => .bind fun fields _ => ?_
  dsimp only
  split
  · exact .ok false h
  · have written := sound.alike_mapState
      (·.putDatum d ({ x with content := .record (fields.insert field value) }.touch
        k.generation)) h
    exact .ok true (sound.alike_datumChanged orders d _
      (sound.alike_announceField _ _ _ _ written))

theorem results_setClosureField (c : ClosureId) (field : String) (value : Value)
    (h : L.Alike k k') : L.Results (k.setClosureField order c field value)
      (k'.setClosureField order' c field value) := by
  unfold setClosureField
  rw [← h.state]
  refine .bind fun x _ => ?_
  dsimp only
  split
  · exact .ok false h
  · have written := sound.alike_mapState
      (·.putClosure c ({ x with fields := x.fields.insert field value }.touch k.generation)) h
    exact .ok true (sound.alike_notify orders _ _ (sound.alike_announceField _ _ _ _ written))

theorem alike_replaceItems (d : DatumId) (x : Datum) (items : List Value) (h : L.Alike k k') :
    L.Alike (k.replaceItems order d x items) (k'.replaceItems order' d x items) := by
  have written := sound.alike_mapState
    (·.putDatum d ({ x with content := .collection items }.touch k.generation)) h
  unfold replaceItems
  rw [← h.state]
  exact sound.alike_datumChanged orders d _
    (sound.alike_emit_stamped (.itemsSet d items.length) written)

theorem results_updateStatus (d : DatumId) (x : Datum) (status : Status) (h : L.Alike k k') :
    L.Results (.ok (k.updateStatus order d x status))
      (.ok (k'.updateStatus order' d x status)) := by
  unfold updateStatus
  rw [← h.state]
  split
  · exact .ok false h
  · have written := sound.alike_mapState
      (·.putDatum d ({ x with status }.touch k.generation)) h
    exact .ok true (sound.alike_datumChanged orders d _
      (sound.alike_log _ (sound.alike_emit_stamped (.availabilitySet d status) written)))

end Sound

/-! Walks in the same order. -/

section

variable (mapState : ∀ {k k'} (f g : State κ → State κ), L.alike k k' →
    L.alike (k.mapState f) (k'.mapState g))

include mapState

/-- A change that is delivered along the same list. -/
theorem alike_notifyAll
    (note : ∀ {k k'} (o : Occurrence κ), L.alike k k' → L.alike (k.note o) (k'.note o))
    (source : NodeId) (change : Change) (ids : List SubscriptionId) (h : L.Alike k k') :
    L.Alike (ids.foldl (Kernel.notifyOne source change) k)
      (ids.foldl (Kernel.notifyOne source change) k') := by
  induction ids generalizing k k' with
  | nil => exact h
  | cons id ids ih =>
    refine ih ?_
    unfold Kernel.notifyOne
    rw [← h.state]
    split
    · exact h
    · split
      · exact ⟨congrArg (fun s : State κ => { s with schedule := s.schedule.enqueue id }) h.state,
          note _ (mapState _ _ h.records)⟩
      · exact h

/-- Subscriptions that are removed along the same list. -/
theorem alike_removeEdges
    (emit : ∀ {k k'} (e : TraceEvent), L.alike k k' → L.alike (k.emit e) (k'.emit e))
    (ids : List SubscriptionId) (h : L.Alike k k') :
    L.Alike (k.removeEdges ids) (k'.removeEdges ids) := by
  induction ids generalizing k k' with
  | nil => exact h
  | cons id ids ih =>
    refine ih ?_
    unfold Kernel.removeEdge
    rw [← h.state]
    split
    · exact h
    · next e _ =>
      exact ⟨congrArg (fun s : State κ =>
        State.unlinkEdge { s with edges := s.edges.erase id e } id e.source e.target) h.state,
        emit _ (mapState _ _ h.records)⟩

end

/-- If sets are walked in the same order, then it is enough that entries, announcements and the use
of the instruments keep records alike. -/
theorem sound_of_eq (lists : L.lists = Eq)
    (mapState : ∀ {k k'} (f g : State κ → State κ), L.alike k k' →
      L.alike (k.mapState f) (k'.mapState g))
    (note : ∀ {k k'} (o : Occurrence κ), L.alike k k' → L.alike (k.note o) (k'.note o))
    (emit : ∀ {k k'} (e : TraceEvent), L.alike k k' → L.alike (k.emit e) (k'.emit e))
    (probe : ∀ {k k'} (p : Probe), L.alike k k' →
      L.sees p (p.perform k).1 (p.perform k').1 ∧ L.alike (p.perform k).2 (p.perform k').2) :
    L.Sound where
  mapState := mapState
  note := note
  emit := emit
  probe := probe
  members same id := by
    obtain rfl : _ = _ := lists ▸ same
    rfl
  append same same' := by
    rw [lists] at same same' ⊢
    rw [same, same']
  notifyAll source change _ _ same h := by
    obtain rfl : _ = _ := lists ▸ same
    exact (alike_notifyAll mapState note source change _ h).records
  removeEdges same h := by
    obtain rfl : _ = _ := lists ▸ same
    exact (alike_removeEdges mapState emit _ h).records

/-- The instruments show the same, and are left the same, if the sinks and recordings are. -/
theorem probe_of_tracer (p : Probe) (same : k.tracer = k'.tracer) :
    (p.perform k).1 = (p.perform k').1 ∧
      (p.perform k).2.tracer = (p.perform k').2.tracer := by
  cases p with
  | tracer => exact ⟨same, same⟩
  | newRecording =>
    exact ⟨congrArg (fun t : Tracer => t.recordings.size) same,
      congrArg (fun t : Tracer => { t with recordings := t.recordings.push #[] }) same⟩
  | clearRecording index =>
    exact ⟨rfl, congrArg (fun t : Tracer =>
      { t with recordings := t.recordings.modify index fun _ => #[] }) same⟩
  | install sink => exact ⟨rfl, congrArg (fun t : Tracer => { t with sink := some sink }) same⟩
  | removeSink =>
    exact ⟨congrArg (fun t : Tracer => t.sink.isSome) same,
      congrArg (fun t : Tracer => { t with sink := none }) same⟩
  | remark text => exact ⟨rfl, same⟩

end Likeness

end ReactiveKernel
