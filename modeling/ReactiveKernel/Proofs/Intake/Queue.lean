import ReactiveKernel.Proofs.Effect.Basic

/-!
# Events that were put and events that were begun

The journal tells which outside events were put and the application of which has begun. Putting an
event adds it to the end of the queue. Apart from that, whatever is done outside of the application
of events leaves the queue alone and tells of no event. The library of templates changes only when a
template is registered.
-/

namespace ReactiveKernel

variable {κ : Type}

namespace Occurrence

/-- The event that joined the queue. -/
def queued? : Occurrence κ → Option (Event κ)
  | .queued event => some event
  | _ => none

/-- The event whose application began. -/
def begun? : Occurrence κ → Option (Event κ)
  | .applying event => some event
  | _ => none

end Occurrence

namespace Kernel

open State

/-- The events that were put so far, in the order of arrival. -/
def puts (k : Kernel κ) : List (Event κ) := k.journal.toList.filterMap Occurrence.queued?

/-- The events whose application has begun so far, in this order. -/
def begun (k : Kernel κ) : List (Event κ) := k.journal.toList.filterMap Occurrence.begun?

variable {k k' k'' : Kernel κ} {order : EdgeOrder κ}

/-- An event was put if an entry says that it joined the queue. -/
theorem puts_note (k : Kernel κ) (o : Occurrence κ) :
    (k.note o).puts = k.puts ++ o.queued?.toList := by
  cases h : o.queued? <;> simp [puts, note, h]

/-- An event was begun if an entry says that its application began. -/
theorem begun_note (k : Kernel κ) (o : Occurrence κ) :
    (k.note o).begun = k.begun ++ o.begun?.toList := by
  cases h : o.begun? <;> simp [begun, note, h]

/-- Nothing happened to outside events. -/
structure SameIntake (k k' : Kernel κ) : Prop where
  /-- The queue is the same. -/
  inbox : k'.inbox = k.inbox
  /-- No event was put. -/
  puts : k'.puts = k.puts
  /-- No event was begun. -/
  begun : k'.begun = k.begun

/-- Nothing happened to outside events and to templates. -/
structure Undisturbed (k k' : Kernel κ) : Prop extends k.SameIntake k' where
  /-- The templates are the same. -/
  templates : k'.templates = k.templates

theorem Undisturbed.trans (h : k.Undisturbed k') (h' : k'.Undisturbed k'') :
    k.Undisturbed k'' :=
  ⟨⟨h'.inbox.trans h.inbox, h'.puts.trans h.puts, h'.begun.trans h.begun⟩,
    h'.templates.trans h.templates⟩

/-- A change of the state that leaves the queue and the templates alone. -/
theorem Undisturbed.mapState (k : Kernel κ) {f : State κ → State κ}
    (same : (f k.toState).inbox = k.inbox ∧ (f k.toState).templates = k.templates) :
    k.Undisturbed (k.mapState f) :=
  ⟨⟨same.1, rfl, rfl⟩, same.2⟩

theorem Undisturbed.refl (k : Kernel κ) : k.Undisturbed k := ⟨⟨rfl, rfl, rfl⟩, rfl⟩

/-- An entry that tells of no event. -/
theorem Undisturbed.note (k : Kernel κ) {o : Occurrence κ} (unput : o.queued? = none)
    (unbegun : o.begun? = none) : k.Undisturbed (k.note o) :=
  ⟨⟨rfl, by rw [puts_note, unput]; exact List.append_nil _,
    by rw [begun_note, unbegun]; exact List.append_nil _⟩, rfl⟩

/-- A log entry disturbs nothing. -/
theorem Undisturbed.log (k : Kernel κ) (e : LogEvent) : k.Undisturbed (k.log e) :=
  .note k rfl rfl

/-- An announcement disturbs nothing. -/
theorem Undisturbed.emit (k : Kernel κ) (e : TraceEvent) : k.Undisturbed (k.emit e) := by
  refine ⟨⟨rfl, ?_, ?_⟩, rfl⟩
  · simp only [Kernel.puts, Kernel.emit]
    split <;> simp [Occurrence.queued?]
  · simp only [Kernel.begun, Kernel.emit]
    split <;> simp [Occurrence.begun?]

/-- Steps that disturb nothing add up over a list. -/
theorem Undisturbed.foldl {α : Type} {f : Kernel κ → α → Kernel κ}
    (step : ∀ (k : Kernel κ) (a : α), k.Undisturbed (f k a)) (k : Kernel κ) (l : List α) :
    k.Undisturbed (l.foldl f k) := by
  induction l generalizing k with
  | nil => exact .refl k
  | cons a l ih => exact (step k a).trans (ih (f k a))

/-! Changes. -/

theorem undisturbed_notifyOne (source : NodeId) (change : Change) (k : Kernel κ)
    (id : SubscriptionId) : k.Undisturbed (notifyOne source change k id) := by
  unfold notifyOne
  split
  · exact .refl k
  · split
    · exact .trans (.mapState k ⟨rfl, rfl⟩) (.log _ _)
    · exact .refl k

theorem undisturbed_notify (k : Kernel κ) (order : EdgeOrder κ) (source : NodeId)
    (change : Change) : k.Undisturbed (k.notify order source change) :=
  .trans (.note k rfl rfl) (.foldl (undisturbed_notifyOne source change) _ _)

theorem undisturbed_datumChanged (k : Kernel κ) (order : EdgeOrder κ) (d : DatumId)
    (change : Change) : k.Undisturbed (k.datumChanged order d change) := by
  have notified := undisturbed_notify k order (.datum d) change
  simp only [datumChanged, carry]
  split
  · exact notified
  · split
    · exact notified
    · exact notified.trans (.trans (.mapState _ ⟨rfl, rfl⟩) (undisturbed_notify _ order _ _))

theorem undisturbed_set {node : NodeId} {field : String} {value : Value} {b : Bool}
    (h : k.set order node field value = .ok (b, k')) : k.Undisturbed k' := by
  cases node with
  | datum d =>
    obtain ⟨x, _, h⟩ := bind_eq_ok.mp h
    obtain ⟨fields, _, h⟩ := bind_eq_ok.mp h
    simp only [pure, Except.pure] at h
    split at h
    · cases h
      exact .refl k
    · cases h
      exact .trans (.mapState k ⟨rfl, rfl⟩) (.trans (.emit _ _) (.trans (.log _ _)
        (undisturbed_datumChanged _ order d _)))
  | closure c =>
    obtain ⟨x, _, h⟩ := bind_eq_ok.mp h
    simp only [pure, Except.pure] at h
    split at h
    · cases h
      exact .refl k
    · cases h
      exact .trans (.mapState k ⟨rfl, rfl⟩) (.trans (.emit _ _) (.trans (.log _ _)
        (undisturbed_notify _ order _ _)))

theorem undisturbed_replaceItems (k : Kernel κ) (order : EdgeOrder κ) (d : DatumId) (x : Datum)
    (items : List Value) : k.Undisturbed (k.replaceItems order d x items) :=
  .trans (.mapState k ⟨rfl, rfl⟩) (.trans (.emit _ _) (undisturbed_datumChanged _ order d _))

theorem undisturbed_updateStatus (k : Kernel κ) (order : EdgeOrder κ) (d : DatumId) (x : Datum)
    (status : Status) : k.Undisturbed (k.updateStatus order d x status).2 := by
  unfold updateStatus
  split
  · exact .refl k
  · exact .trans (.mapState k ⟨rfl, rfl⟩) (.trans (.emit _ _) (.trans (.log _ _)
      (undisturbed_datumChanged _ order d _)))

theorem undisturbed_setItem {d : DatumId} {index : Nat} {value : Value} {b : Bool}
    (h : k.setItem order d index value = .ok (b, k')) : k.Undisturbed k' := by
  obtain ⟨x, _, h⟩ := bind_eq_ok.mp h
  obtain ⟨items, _, h⟩ := bind_eq_ok.mp h
  split at h
  · cases h
  · split at h
    · cases h
      exact .refl k
    · cases h
      exact undisturbed_replaceItems k order d x _

theorem undisturbed_removeItem {d : DatumId} {index : Nat} {v : Value}
    (h : k.removeItem order d index = .ok (v, k')) : k.Undisturbed k' := by
  obtain ⟨x, _, h⟩ := bind_eq_ok.mp h
  obtain ⟨items, _, h⟩ := bind_eq_ok.mp h
  split at h
  · cases h
  · cases h
    exact undisturbed_replaceItems k order d x _

/-! New nodes and subscriptions. -/

/-- A change of the record of a closure leaves the queue and the templates alone. -/
theorem intake_updateClosure (s : State κ) (c : ClosureId) (f : Closure → Closure) :
    (s.updateClosure c f).inbox = s.inbox ∧ (s.updateClosure c f).templates = s.templates := by
  rw [updateClosure_eq]
  exact ⟨rfl, rfl⟩

theorem undisturbed_createNode {typeName : String} {content : Content} {owner : Option ClosureId}
    {d : DatumId} (h : k.createNode typeName content owner = .ok (d, k')) : k.Undisturbed k' := by
  obtain ⟨_, _, h⟩ := bind_eq_ok.mp h
  cases h
  refine .trans (.mapState k ?_) (.trans (.emit _ _) (.trans (.log _ _) (.mapState _ ⟨rfl, rfl⟩)))
  cases owner with
  | none => exact ⟨rfl, rfl⟩
  | some o => exact intake_updateClosure _ _ _

theorem undisturbed_createClosure {template : String} {parent : Option ClosureId} {c : ClosureId}
    (h : k.createClosure template parent = .ok (c, k')) : k.Undisturbed k' := by
  obtain ⟨_, _, h⟩ := bind_eq_ok.mp h
  cases h
  refine .trans (.mapState k ?_) (.trans (.emit _ _) (.mapState _ ⟨rfl, rfl⟩))
  cases parent with
  | none => exact ⟨rfl, rfl⟩
  | some p => exact intake_updateClosure _ _ _

theorem undisturbed_catchUp (k : Kernel κ) (id : SubscriptionId) (source : NodeId)
    (changedAt : Nat) : k.Undisturbed (k.catchUp id source changedAt) := by
  unfold catchUp
  split
  · exact .trans (.mapState k ⟨rfl, rfl⟩) (.log _ _)
  · exact .refl k

theorem undisturbed_subscribe {source target : NodeId} {selector : Selector} {code : κ}
    {id : SubscriptionId} (h : k.subscribe source target selector code = .ok (id, k')) :
    k.Undisturbed k' := by
  obtain ⟨changedAt, _, h⟩ := bind_eq_ok.mp h
  obtain ⟨_, _, h⟩ := bind_eq_ok.mp h
  cases h
  refine .trans (.mapState k ?_) (.trans (.emit _ _) (.trans (.mapState _ ⟨rfl, rfl⟩)
    (undisturbed_catchUp _ _ source changedAt)))
  rw [linkEdge_eq]
  exact ⟨rfl, rfl⟩

/-! Removals. -/

theorem undisturbed_removeEdge (k : Kernel κ) (id : SubscriptionId) :
    k.Undisturbed (k.removeEdge id) := by
  unfold removeEdge
  split
  · exact .refl k
  · refine .trans (.mapState k ?_) (.emit _ _)
    rw [unlinkEdge_eq]
    exact ⟨rfl, rfl⟩

theorem undisturbed_razeDatum (k : Kernel κ) (order : EdgeOrder κ) (d : DatumId) :
    k.Undisturbed (k.razeDatum order d) := by
  unfold razeDatum
  cases k.datums[d]? with
  | none => exact .refl k
  | some x =>
    refine .trans (.foldl undisturbed_removeEdge k _) (.trans (.mapState _ ?_)
      (.trans (.emit _ _) (.log _ _)))
    cases x.owner with
    | none => exact ⟨rfl, rfl⟩
    | some o => exact intake_updateClosure _ _ _

theorem undisturbed_dropClosure (k : Kernel κ) (c : ClosureId) (parent : Option ClosureId) :
    k.Undisturbed (k.dropClosure c parent) := by
  refine .trans (.mapState k ?_) (.trans (.emit _ _) (.log _ _))
  cases parent with
  | none => exact ⟨rfl, rfl⟩
  | some p => exact intake_updateClosure _ _ _

theorem undisturbed_razeClosure (order : EdgeOrder κ) (fuel : Nat) (k : Kernel κ)
    (c : ClosureId) : k.Undisturbed (razeClosure order fuel k c) := by
  induction fuel generalizing k c with
  | zero => exact .refl k
  | succ fuel ih =>
    unfold razeClosure
    cases k.closures[c]? with
    | none => exact .refl k
    | some x =>
      exact .trans (.mapState k ⟨rfl, rfl⟩) (.trans (.foldl undisturbed_removeEdge _ _)
        (.trans (.foldl undisturbed_removeEdge _ _)
          (.trans (.foldl (fun k d => undisturbed_razeDatum k order d) _ _)
            (.trans (.foldl ih _ _) (undisturbed_dropClosure _ c x.parent)))))

/-! Commands and actions. -/

/-- A command puts an event or registers a template, or nothing happens to either. -/
theorem undisturbed_perform (k : Kernel κ) (order : EdgeOrder κ) (c : Command κ) :
    (∃ event, c = .putEvent event) ∨ (∃ name t, c = .register name t) ∨
      k.Undisturbed (c.perform order k).2 := by
  cases h : c.attempt order k with
  | error fault =>
    rw [Command.perform_of_error h]
    exact .inr (.inr (.refl k))
  | ok done =>
    obtain ⟨reply, k'⟩ := done
    rw [Command.perform_of_ok h]
    cases c with
    | putEvent event => exact .inl ⟨event, rfl⟩
    | register name t => exact .inr (.inl ⟨name, t, rfl⟩)
    | createDatum _ _ _ | createCollection _ _ _ => exact .inr (.inr (undisturbed_createNode h))
    | createClosure _ _ => exact .inr (.inr (undisturbed_createClosure h))
    | subscribe _ _ _ _ => exact .inr (.inr (undisturbed_subscribe h))
    | unsubscribe id =>
      cases h
      exact .inr (.inr (undisturbed_removeEdge k id))
    | set node _ _ => exact .inr (.inr (undisturbed_set h))
    | setItems d items | pushItem d item =>
      obtain ⟨x, _, h⟩ := bind_eq_ok.mp h
      obtain ⟨_, _, h⟩ := bind_eq_ok.mp h
      cases h
      exact .inr (.inr (undisturbed_replaceItems k order d x _))
    | setItem _ _ _ => exact .inr (.inr (undisturbed_setItem h))
    | removeItem _ _ => exact .inr (.inr (undisturbed_removeItem h))
    | setAvailability d _ | setError d _ =>
      obtain ⟨x, _, h⟩ := bind_eq_ok.mp h
      have same := congrArg Prod.snd (Except.ok.inj h)
      exact .inr (.inr (same ▸ undisturbed_updateStatus k order d x _))
    | destroyDatum d =>
      obtain ⟨_, _, h⟩ := bind_eq_ok.mp h
      cases h
      exact .inr (.inr (undisturbed_razeDatum k order d))
    | destroyClosure c =>
      obtain ⟨_, _, h⟩ := bind_eq_ok.mp h
      cases h
      exact .inr (.inr (undisturbed_razeClosure order _ k c))

/-- No event asks to put another one, or to register a template. -/
theorem toCommand_ne {event : Event κ} {c : Command κ} (stands : event.toCommand = .ok (some c)) :
    (∀ put, c ≠ .putEvent put) ∧ ∀ name t, c ≠ .register name t := by
  cases event with
  | set node field value =>
    cases stands
    exact ⟨nofun, nofun⟩
  | setItems _ _ | setAvailability _ _ | setError _ _ =>
    obtain ⟨d, _, stands⟩ := bind_eq_ok.mp stands
    cases stands
    exact ⟨nofun, nofun⟩
  | invoke code => cases stands

/-- What an event stands for has nothing to do with outside events and templates. -/
theorem undisturbed_event (k : Kernel κ) (order : EdgeOrder κ) {event : Event κ} {c : Command κ}
    (stands : event.toCommand = .ok (some c)) : k.Undisturbed (c.perform order k).2 := by
  rcases undisturbed_perform k order c with ⟨put, rfl⟩ | ⟨name, t, rfl⟩ | same
  · exact absurd rfl ((toCommand_ne stands).1 put)
  · exact absurd rfl ((toCommand_ne stands).2 name t)
  · exact same

/-- A deed puts an event, or nothing happens to outside events. -/
theorem Deed.sameIntake (h : k.Deed order k') :
    (∃ event, k' = k.putEvent event) ∨ k.SameIntake k' := by
  cases h with
  | command c =>
    rcases undisturbed_perform k order c with ⟨event, rfl⟩ | ⟨name, t, rfl⟩ | same
    · exact .inl ⟨event, rfl⟩
    · exact .inr ⟨rfl, rfl, rfl⟩
    · exact .inr same.toSameIntake
  | params c params => exact .inr (Undisturbed.mapState k (intake_updateClosure _ _ _)).toSameIntake
  | instantiated c template _ => exact .inr (Undisturbed.emit k _).toSameIntake
  | log e _ => exact .inr (Undisturbed.log k e).toSameIntake

/-- What a drain does itself has nothing to do with outside events and templates. -/
theorem DrainAction.undisturbed (h : k.DrainAction k') : k.Undisturbed k' := by
  cases h with
  | emit e _ _ => exact .emit k e
  | note o ho =>
    cases o with
    | queued _ | applying _ => cases ho
    | _ => exact .note k rfl rfl
  | reschedule s _ => exact .mapState k ⟨rfl, rfl⟩

theorem undisturbed_probe (p : Probe) (k : Kernel κ) : k.Undisturbed (p.perform k).2 := by
  cases p with
  | remark text => exact .note k rfl rfl
  | tracer | newRecording | clearRecording index | install sink | removeSink =>
    exact ⟨⟨rfl, rfl, rfl⟩, rfl⟩

end Kernel

end ReactiveKernel
