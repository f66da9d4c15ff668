import ReactiveKernel.Proofs.Trace.Graph

/-!
# Operations tell what they do

Whatever an operation does to the nodes and the subscriptions, it announces: the events that it adds
to the journal go to the sink in use, each is admitted by the graph so far, and they lead from the
graph before the operation to the graph after it. Operations other than drains add none of the
entries that tell of waves and callbacks.
-/

namespace ReactiveKernel

variable {κ : Type}

/-- Only entries that others than drains write as well. -/
def Silent (entries : List (Occurrence κ)) : Prop := ∀ o ∈ entries, o.isOfDrain = false

/-- Silent entries in a row are silent. -/
theorem Silent.append {entries more : List (Occurrence κ)} (h : Silent entries)
    (h' : Silent more) : Silent (entries ++ more) := by
  intro o ho
  rcases List.mem_append.mp ho with old | new
  · exact h o old
  · exact h' o new

/-- What only drains write is not among silent entries. -/
theorem Silent.filterMap {β : Type} {entries : List (Occurrence κ)} (h : Silent entries)
    {f : Occurrence κ → Option β} (hf : ∀ o, o.isOfDrain = false → f o = none) :
    entries.filterMap f = [] :=
  List.filterMap_eq_nil_iff.mpr fun o ho => hf o (h o ho)

/-- The event that an entry announces. -/
def Occurrence.announced? : Occurrence κ → Option TraceEvent
  | .announced e => some e
  | _ => none

/-- The events that entries announce. -/
def announcements (entries : List (Occurrence κ)) : List TraceEvent :=
  entries.filterMap Occurrence.announced?

@[simp] theorem announcements_append (entries more : List (Occurrence κ)) :
    announcements (entries ++ more) = announcements entries ++ announcements more :=
  List.filterMap_append

namespace Kernel

open State

/-- The entries that are written when an event is announced. -/
def announcement (k : Kernel κ) (e : TraceEvent) : List (Occurrence κ) :=
  .announced e :: if k.tracer.logs then [.logged (.traced e)] else []

/-- The journal gains the entries of an announcement. -/
theorem journal_emit (k : Kernel κ) (e : TraceEvent) :
    (k.emit e).journal.toList = k.journal.toList ++ k.announcement e := by
  simp only [emit, announcement]
  split <;> simp

/-- The journal gains an entry that is written. -/
theorem journal_note (k : Kernel κ) (o : Occurrence κ) :
    (k.note o).journal.toList = k.journal.toList ++ [o] := by
  simp [note]

/-- The entries of an announcement are written by others than drains as well. -/
theorem silent_announcement (k : Kernel κ) (e : TraceEvent) : Silent (k.announcement e) := by
  intro o ho
  rcases List.mem_cons.mp ho with rfl | echo
  · rfl
  · split at echo
    · rw [List.mem_singleton.mp echo]
      rfl
    · cases echo

@[simp] theorem announcements_announcement (k : Kernel κ) (e : TraceEvent) :
    announcements (k.announcement e) = [e] := by
  simp only [announcement]
  split <;> rfl

/-- The journal gained these entries; the events among them went to the sink in use, and lead from
one graph to the other. -/
structure Narrates (k : Kernel κ) (entries : List (Occurrence κ)) (k' : Kernel κ) : Prop where
  /-- The entries come last. -/
  journal : k'.journal.toList = k.journal.toList ++ entries
  /-- The sink gets every event. -/
  tracer : k'.tracer = (announcements entries).foldl Tracer.record k.tracer
  /-- Each event is admitted when it is announced, and all changes of the graph are announced. -/
  graph : k.toState.graph.Leads (announcements entries) k'.toState.graph

variable {k k' k'' : Kernel κ} {order : EdgeOrder κ}

theorem Narrates.trans {entries more : List (Occurrence κ)} (h : k.Narrates entries k')
    (h' : k'.Narrates more k'') : k.Narrates (entries ++ more) k'' := by
  refine ⟨by rw [h'.journal, h.journal, List.append_assoc], ?_, ?_⟩
  · rw [announcements_append, List.foldl_append, ← h.tracer, h'.tracer]
  · rw [announcements_append]
    exact h.graph.append h'.graph

/-- Something is told that only drains tell, or nothing of it. -/
def Recounts (k k' : Kernel κ) : Prop := ∃ entries, k.Narrates entries k' ∧ Silent entries

theorem Recounts.trans (h : k.Recounts k') (h' : k'.Recounts k'') : k.Recounts k'' := by
  obtain ⟨entries, tells, silent⟩ := h
  obtain ⟨more, tells', silent'⟩ := h'
  exact ⟨entries ++ more, tells.trans tells', silent.append silent'⟩

/-- A change that the graph does not show needs no telling. -/
theorem Recounts.of_graph (journal : k'.journal = k.journal) (tracer : k'.tracer = k.tracer)
    (same : k'.toState.graph = k.toState.graph) : k.Recounts k' := by
  refine ⟨[], ⟨by rw [journal, List.append_nil], tracer, ?_⟩, by simp [Silent]⟩
  rw [same]
  exact .nil _

/-- A change that leaves the graph as it is is recounted. -/
theorem Recounts.mapState (k : Kernel κ) {f : State κ → State κ}
    (same : (f k.toState).graph = k.toState.graph) : k.Recounts (k.mapState f) :=
  .of_graph rfl rfl same

theorem Recounts.refl (k : Kernel κ) : k.Recounts k := .of_graph rfl rfl rfl

/-- An entry that announces nothing. -/
theorem narrates_note (k : Kernel κ) {o : Occurrence κ} (h : o.announced? = none) :
    k.Narrates [o] (k.note o) := by
  have nothing : announcements [o] = [] := by simp [announcements, h]
  refine ⟨journal_note k o, ?_, ?_⟩
  · rw [nothing]
    rfl
  · rw [nothing]
    exact .nil _

/-- An entry is recounted if it announces nothing and others than drains write it as well. -/
theorem Recounts.note (k : Kernel κ) {o : Occurrence κ} (h : o.announced? = none)
    (h' : o.isOfDrain = false) : k.Recounts (k.note o) :=
  ⟨[o], narrates_note k h, List.forall_mem_singleton.mpr h'⟩

/-- A log entry is recounted if others than drains write it as well. -/
theorem Recounts.log (k : Kernel κ) {e : LogEvent} (h : e.isOfDrain = false) :
    k.Recounts (k.log e) :=
  .note k rfl h

/-- An event that the graph does not show. -/
theorem narrates_emit (k : Kernel κ) {e : TraceEvent} (admits : k.toState.graph.Admits e)
    (same : k.toState.graph.record e = k.toState.graph) :
    k.Narrates (k.announcement e) (k.emit e) := by
  refine ⟨journal_emit k e, ?_, ?_⟩
  · rw [announcements_announcement]
    rfl
  · rw [announcements_announcement]
    exact .one admits same

/-- An announcement is recounted if it is admitted and leaves the graph as it is. -/
theorem Recounts.emit (k : Kernel κ) {e : TraceEvent} (admits : k.toState.graph.Admits e)
    (same : k.toState.graph.record e = k.toState.graph) : k.Recounts (k.emit e) :=
  ⟨_, narrates_emit k admits same, silent_announcement k e⟩

/-- An event that is announced together with the change of the tables that it tells of, before it or
after it. -/
theorem Recounts.told {e : TraceEvent} (admits : k.toState.graph.Admits e)
    {l : List (Occurrence κ)} (quiet : ∀ o ∈ l, o.announced? = none) (silent : Silent l)
    (journal : k'.journal.toList = k.journal.toList ++ (k.announcement e ++ l))
    (tracer : k'.tracer = k.tracer.record e)
    (graph : k'.toState.graph = k.toState.graph.record e) : k.Recounts k' := by
  have only : announcements (k.announcement e ++ l) = [e] := by
    rw [announcements_append, announcements_announcement]
    simp [announcements, List.filterMap_eq_nil_iff.mpr quiet]
  refine ⟨_, ⟨journal, ?_, ?_⟩, (silent_announcement k e).append silent⟩
  · rw [only]
    exact tracer
  · rw [only]
    exact .one admits graph.symm

/-- Steps that are recounted add up over a list. -/
theorem Recounts.foldl {α : Type} {f : Kernel κ → α → Kernel κ}
    (step : ∀ (k : Kernel κ) (a : α), k.Recounts (f k a)) (k : Kernel κ) (l : List α) :
    k.Recounts (l.foldl f k) := by
  induction l generalizing k with
  | nil => exact .refl k
  | cons a l ih => exact (step k a).trans (ih (f k a))

end Kernel

/-! Changes of records that the graph does not show. -/

namespace State

variable {s : State κ}

/-- The graph stays as it is when a datum keeps its type and its owner. -/
theorem graph_putDatum {d : DatumId} {x y : Datum} (hd : s.datums[d]? = some x)
    (type : y.typeName = x.typeName) (owner : y.owner = x.owner) :
    (s.putDatum d y).graph = s.graph := by
  refine graph_eq (fun a => ?_) (fun _ => rfl) (fun _ => rfl)
  rw [getElem?_datums_graph, getElem?_datums_graph, putDatum, Std.ExtTreeMap.getElem?_insert]
  by_cases h : d = a
  · subst h
    simp [hd, type, owner]
  · simp [h]

/-- The graph stays as it is when a closure is changed that keeps its template and its parent. -/
theorem graph_updateClosure (c : ClosureId) {f : Closure → Closure}
    (same : ∀ x, (f x).template = x.template ∧ (f x).parent = x.parent) :
    (s.updateClosure c f).graph = s.graph := by
  rw [updateClosure_eq]
  refine graph_eq (fun _ => rfl) (fun b => ?_) (fun _ => rfl)
  rw [getElem?_closures_graph, getElem?_closures_graph, getElem?_modify_eq_map, Option.map_map]
  refine congrArg (Option.map · _) (funext fun x => ?_)
  simp only [Function.comp_apply]
  split
  · rw [(same x).1, (same x).2]
  · rfl

/-- The graph stays as it is when a closure is replaced that keeps its template and its parent. -/
theorem graph_putClosure {c : ClosureId} {x y : Closure} (hc : s.closures[c]? = some x)
    (same : y.template = x.template ∧ y.parent = x.parent) :
    (s.putClosure c y).graph = s.graph := by
  have put : s.putClosure c y = s.updateClosure c fun z => { y with
      template := z.template, parent := z.parent } := by
    simp only [updateClosure, hc, ← same.1, ← same.2]
  rw [put]
  exact graph_updateClosure c fun _ => ⟨rfl, rfl⟩

end State

namespace Kernel

open State

variable {k k' : Kernel κ} {order : EdgeOrder κ}

/-! Changes. -/

/-- A notification is recounted. -/
theorem recounts_notifyOne (source : NodeId) (change : Change) (k : Kernel κ)
    (id : SubscriptionId) : k.Recounts (notifyOne source change k id) := by
  unfold notifyOne
  split
  · exact .refl k
  · split
    · exact .trans (.mapState k rfl) (.log _ rfl)
    · exact .refl k

/-- The notifications of a change are recounted. -/
theorem recounts_notify (k : Kernel κ) (order : EdgeOrder κ) (source : NodeId)
    (change : Change) : k.Recounts (k.notify order source change) :=
  .trans (.note k rfl rfl) (.foldl (recounts_notifyOne source change) _ _)

/-- A carried change is recounted. -/
theorem recounts_carry (k : Kernel κ) (order : EdgeOrder κ) (owner : ClosureId) :
    k.Recounts (k.carry order owner) := by
  unfold carry
  split
  · exact .refl k
  · next x hx =>
    have same : (k.toState.putClosure owner { x with revisions := x.revisions.bumpCarried }).graph =
        k.toState.graph := graph_putClosure hx ⟨rfl, rfl⟩
    exact .trans (.mapState k same) (recounts_notify _ order _ _)

/-- The delivery of a change of a datum is recounted. -/
theorem recounts_datumChanged (k : Kernel κ) (order : EdgeOrder κ) (d : DatumId)
    (change : Change) : k.Recounts (k.datumChanged order d change) := by
  have notified := recounts_notify k order (.datum d) change
  simp only [datumChanged]
  split
  · exact notified
  · exact notified.trans (recounts_carry _ order _)

/-- The announcement of a change of a node that is there. -/
theorem recounts_change {e : TraceEvent} {node : NodeId} {change : Change}
    (announces : e.change? = some (node, change)) (live : k.toState.graph.Has node) :
    k.Recounts (k.emit e) := by
  cases e <;> cases announces <;> exact .emit k live rfl

/-- A live datum is in the graph. -/
theorem has_datum {d : DatumId} {x : Datum} (hd : k.datums[d]? = some x) :
    k.toState.graph.Has (.datum d) :=
  has_graph.mpr (contains_datum.mpr ⟨x, hd⟩)

/-- A datum is written, this is announced, and it is delivered. -/
theorem recounts_touch {d : DatumId} {x y : Datum} (hd : k.datums[d]? = some x)
    (type : y.typeName = x.typeName) (owner : y.owner = x.owner) {e : TraceEvent} {change : Change}
    (announces : e.change? = some (.datum d, change)) :
    k.Recounts ((k.mapState (·.putDatum d y)).emit e) := by
  have same : (k.toState.putDatum d y).graph = k.toState.graph := graph_putDatum hd type owner
  refine .trans (.mapState k same) (recounts_change announces ?_)
  rw [toState_mapState, same]
  exact has_datum hd

/-- A write to a field of a datum is recounted. -/
theorem recounts_setDatumField {d : DatumId} {field : String} {value : Value} {b : Bool}
    (h : k.setDatumField order d field value = .ok (b, k')) : k.Recounts k' := by
  obtain ⟨x, hx, h⟩ := bind_eq_ok.mp h
  obtain ⟨fields, _, h⟩ := bind_eq_ok.mp h
  simp only [pure, Except.pure] at h
  split at h
  · cases h
    exact .refl k
  · cases h
    have touched := recounts_touch (requireDatum_ok.mp hx) (y := { x with
      content := .record (fields.insert field value) }.touch k.generation) rfl rfl
      (e := .fieldSet (.datum d) field ((fields[field]?).getD .null) value k.generation) rfl
    exact touched.trans (.trans (.log _ rfl) (recounts_datumChanged _ order d _))

/-- A write to a field of a closure is recounted. -/
theorem recounts_setClosureField {c : ClosureId} {field : String} {value : Value} {b : Bool}
    (h : k.setClosureField order c field value = .ok (b, k')) : k.Recounts k' := by
  obtain ⟨x, hx, h⟩ := bind_eq_ok.mp h
  simp only [pure, Except.pure] at h
  split at h
  · cases h
    exact .refl k
  · cases h
    have here := requireClosure_ok.mp hx
    let y := { x with fields := x.fields.insert field value }.touch k.generation
    have same : (k.toState.putClosure c y).graph = k.toState.graph :=
      graph_putClosure here ⟨rfl, rfl⟩
    refine .trans (.mapState k same) (.trans (.trans (recounts_change rfl ?_) (.log _ rfl))
      (recounts_notify _ order _ _))
    rw [toState_mapState, same]
    exact has_graph.mpr (contains_closure.mpr ⟨x, here⟩)

/-- The replacement of items is recounted. -/
theorem recounts_replaceItems (order : EdgeOrder κ) {d : DatumId} {x : Datum}
    (hd : k.datums[d]? = some x) (items : List Value) :
    k.Recounts (k.replaceItems order d x items) := by
  have touched := recounts_touch hd
    (y := { x with content := .collection items }.touch k.generation)
    rfl rfl (e := .itemsSet d items.length k.generation) rfl
  exact touched.trans (recounts_datumChanged _ order d _)

/-- An update of a status is recounted. -/
theorem recounts_updateStatus (order : EdgeOrder κ) {d : DatumId} {x : Datum}
    (hd : k.datums[d]? = some x) (status : Status) :
    k.Recounts (k.updateStatus order d x status).2 := by
  unfold updateStatus
  split
  · exact .refl k
  · have touched := recounts_touch hd (y := { x with status }.touch k.generation) rfl rfl
      (e := .availabilitySet d status k.generation) rfl
    exact touched.trans (.trans (.log _ rfl) (recounts_datumChanged _ order d _))

/-- A write to an item is recounted. -/
theorem recounts_setItem {d : DatumId} {index : Nat} {value : Value} {b : Bool}
    (h : k.setItem order d index value = .ok (b, k')) : k.Recounts k' := by
  obtain ⟨x, hx, h⟩ := bind_eq_ok.mp h
  obtain ⟨items, _, h⟩ := bind_eq_ok.mp h
  split at h
  · cases h
  · split at h
    · cases h
      exact .refl k
    · cases h
      exact recounts_replaceItems order (requireDatum_ok.mp hx) _

/-- The removal of an item is recounted. -/
theorem recounts_removeItem {d : DatumId} {index : Nat} {v : Value}
    (h : k.removeItem order d index = .ok (v, k')) : k.Recounts k' := by
  obtain ⟨x, hx, h⟩ := bind_eq_ok.mp h
  obtain ⟨items, _, h⟩ := bind_eq_ok.mp h
  split at h
  · cases h
  · cases h
    exact recounts_replaceItems order (requireDatum_ok.mp hx) _

/-! New nodes and subscriptions. -/

/-- The closure that a new node is attached to, if there is one, is there. -/
theorem holder_has {holder : Option ClosureId} {u : Unit} (h : k.requireHolder holder = .ok u)
    (c : ClosureId) (is : holder = some c) : k.toState.graph.Has (.closure c) := by
  obtain ⟨x, hx⟩ := exists_closure (requireHolder_ok.mp h c is)
  exact has_graph.mpr (contains_closure.mpr ⟨x, hx⟩)

/-- A new datum is recounted. -/
theorem recounts_createNode {typeName : String} {content : Content} {owner : Option ClosureId}
    {d : DatumId} (h : k.createNode typeName content owner = .ok (d, k')) : k.Recounts k' := by
  obtain ⟨_, _, state⟩ := createNode_spec h
  have graph := congrArg State.graph state
  rw [graph_addDatum] at graph
  obtain ⟨_, live, h⟩ := bind_eq_ok.mp h
  cases h
  refine .told (e := .datumCreated k.toState.nextDatum typeName owner)
    (l := [.logged (.datumCreated k.toState.nextDatum typeName)]) (holder_has live)
    (List.forall_mem_singleton.mpr rfl) (List.forall_mem_singleton.mpr rfl) ?_ rfl graph
  rw [← List.append_assoc]
  exact (journal_note _ _).trans (congrArg (· ++ _) (journal_emit _ _))

/-- The journal gains the announcement of a new closure. -/
theorem journal_createClosure {template : String} {parent : Option ClosureId} {c : ClosureId}
    (h : k.createClosure template parent = .ok (c, k')) :
    k'.journal.toList = k.journal.toList ++ k.announcement (.closureCreated c template parent) := by
  obtain ⟨_, _, h⟩ := bind_eq_ok.mp h
  cases h
  exact journal_emit _ _

/-- A new closure is recounted. -/
theorem recounts_createClosure {template : String} {parent : Option ClosureId} {c : ClosureId}
    (h : k.createClosure template parent = .ok (c, k')) : k.Recounts k' := by
  have journal := journal_createClosure h
  obtain ⟨_, _, state⟩ := createClosure_spec h
  have graph := congrArg State.graph state
  rw [graph_addClosure] at graph
  obtain ⟨_, live, h⟩ := bind_eq_ok.mp h
  cases h
  refine .told (e := .closureCreated k.toState.nextClosure template parent) (l := [])
    (holder_has live) (by simp) (by simp [Silent]) ?_ rfl graph
  rw [List.append_nil]
  exact journal

/-- A subscription that catches up is recounted. -/
theorem recounts_catchUp (k : Kernel κ) (id : SubscriptionId) (source : NodeId)
    (changedAt : Nat) : k.Recounts (k.catchUp id source changedAt) := by
  unfold catchUp
  split
  · exact .trans (.mapState k rfl) (.log _ rfl)
  · exact .refl k

/-- A new subscription is recounted. -/
theorem recounts_subscribe {source target : NodeId} {selector : Selector} {code : κ}
    {id : SubscriptionId} (h : k.subscribe source target selector code = .ok (id, k')) :
    k.Recounts k' := by
  obtain ⟨source_live, target_live, _, state, _⟩ := subscribe_spec h
  let e : TraceEvent := .subscribed k.toState.nextSubscription source target selector
  have admits : k.toState.graph.Admits e := ⟨has_graph.mpr source_live, has_graph.mpr target_live⟩
  have graph : k'.toState.graph = k.toState.graph.record e :=
    (congrArg State.graph state).trans (graph_addEdge source target selector code)
  obtain ⟨_, _, h⟩ := bind_eq_ok.mp h
  obtain ⟨_, _, h⟩ := bind_eq_ok.mp h
  cases h
  rw [toState_catchUp] at graph
  refine .trans (.told (e := e) (l := []) admits (by simp) (by simp [Silent]) ?_ rfl graph)
    (recounts_catchUp _ _ _ _)
  rw [List.append_nil]
  exact journal_emit _ _

end Kernel

end ReactiveKernel
