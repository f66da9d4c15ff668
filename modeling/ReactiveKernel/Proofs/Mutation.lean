import ReactiveKernel.Proofs.Effect.Consistency

/-!
# What a mutation changes

A mutation writes what it was asked to write, counts once at its node and at the owner of its node,
and makes exactly the subscriptions pending that the change reaches. Nothing else is different
afterwards. A mutation that is refused, or that finds its value there already, changes nothing.
-/

namespace ReactiveKernel

variable {κ : Type}

/-- What mutations write at a node. -/
inductive Slot where
  | datum (content : Content) (status : Status)
  | closure (fields : FieldMap)

/-- What mutations write at a node, if it is live. -/
def State.slot? (s : State κ) : NodeId → Option Slot
  | .datum d => (s.datums[d]?).map fun x => .datum x.content x.status
  | .closure c => (s.closures[c]?).map fun x => .closure x.fields

namespace Command

/-- The node that a command is to change, if it is a mutation. -/
def mutates? : Command κ → Option NodeId
  | .set node _ _ => some node
  | .setItems d _ | .setItem d _ _ | .pushItem d _ | .removeItem d _ | .setAvailability d _
  | .setError d _ => some (.datum d)
  | _ => none

/-- What a mutation asks to be written, if it can be written there. -/
def requested : Command κ → Slot → Option Slot
  | .set _ field value, .datum (.record fields) status =>
    some (.datum (.record (fields.insert field value)) status)
  | .set _ field value, .closure fields => some (.closure (fields.insert field value))
  | .setItems _ items, .datum (.collection _) status => some (.datum (.collection items) status)
  | .setItem _ index value, .datum (.collection items) status =>
    if index < items.length then some (.datum (.collection (items.set index value)) status)
    else none
  | .pushItem _ value, .datum (.collection items) status =>
    some (.datum (.collection (items ++ [value])) status)
  | .removeItem _ index, .datum (.collection items) status =>
    if index < items.length then some (.datum (.collection (items.eraseIdx index)) status)
    else none
  | .setAvailability _ .loading, .datum content _ => some (.datum content .loading)
  | .setAvailability _ .ready, .datum content _ => some (.datum content .ready)
  | .setAvailability _ .error, .datum content status =>
    some (.datum content (.failed status.payload))
  | .setError _ payload, .datum content _ => some (.datum content (.failed (some payload)))
  | _, _ => none

/-- What a mutation asks for is there already. Lists as a whole are never compared. -/
def idle : Command κ → Slot → Bool
  | .set _ field value, .datum (.record fields) _ => ((fields[field]?).getD .null).same value
  | .set _ field value, .closure fields => ((fields[field]?).getD .null).same value
  | .setItem _ index value, .datum (.collection items) _ => (items[index]?).any (·.same value)
  | .setAvailability _ a, .datum _ status => status.same (status.withAvailability a)
  | .setError _ payload, .datum _ status => status.same (.failed (some payload))
  | _, _ => false

/-- The answer to a mutation that has removed an item is that item. -/
def Answers : (c : Command κ) → Slot → c.Reply → Prop
  | .removeItem _ index, .datum (.collection items) _, removed => items[index]? = some removed
  | _, _, _ => True

end Command

namespace State

/-- The second state is the first one after a change of a node to a new slot. -/
structure Mutates (s : State κ) (node : NodeId) (change : Change) (slot : Slot) (t : State κ) :
    Prop where
  /-- Pending are those that were, those that match the change at the node, and those that match a
  carried change at its owner. -/
  pending : ∀ id, id ∈ t.schedule.pending ↔ id ∈ s.schedule.pending ∨
    s.Matches node change id ∨ ∃ c e, s.Owns c node ∧ s.edges.subscriptions[id]? = some e ∧
      e.source = .closure c ∧ (e.selector = .carried ∨ e.selector = .everything)
  /-- A datum that is changed has the new slot, counts the change and is stamped. -/
  datum : ∀ d, node = .datum d → ∃ x content status, s.datums[d]? = some x ∧
    slot = .datum content status ∧ t.datums[d]? = some { x with
      content, status
      revisions := ⟨x.revisions.structural + 1, x.revisions.carried + 1⟩
      setGeneration := s.generation }
  /-- A closure that is changed has the new slot, counts the change and is stamped. -/
  closure : ∀ c, node = .closure c → ∃ x fields, s.closures[c]? = some x ∧
    slot = .closure fields ∧ t.closures[c]? = some { x with
      fields
      revisions := ⟨x.revisions.structural + 1, x.revisions.carried + 1⟩
      setGeneration := s.generation }
  /-- The owner counts a carried change. -/
  owner : ∀ c, s.Owns c node → ∃ x, s.closures[c]? = some x ∧ t.closures[c]? = some { x with
    revisions := ⟨x.revisions.structural, x.revisions.carried + 1⟩ }
  /-- Other datums are as they were. -/
  other_datums : ∀ d : DatumId, node ≠ .datum d → t.datums[d]? = s.datums[d]?
  /-- Other closures are as they were. -/
  other_closures : ∀ c : ClosureId, node ≠ .closure c → ¬ s.Owns c node →
    t.closures[c]? = s.closures[c]?
  /-- Nothing else is different. -/
  rest : t = { s with
    datums := t.datums
    closures := t.closures
    schedule := { s.schedule with pending := t.schedule.pending } }

end State

/-- The selectors that match a carried change. -/
theorem Selector.accepts_carried {selector : Selector} :
    selector.accepts .carried = true ↔ selector = .carried ∨ selector = .everything := by
  cases selector <;> simp [accepts, Change.isStructural, Change.fieldName]

/-- The closure after a change of a datum that it owns. -/
def Closure.bumped (x : Closure) : Closure := { x with revisions := x.revisions.bumpCarried }

namespace State

variable {s : State κ}

/-- A change reaches the subscriptions at the node and at its owner. -/
theorem hears_iff {node : NodeId} {change : Change} {id : SubscriptionId} :
    s.Hears node change id ↔ s.Matches node change id ∨
      ∃ c e, s.Owns c node ∧ s.edges.subscriptions[id]? = some e ∧
        e.source = .closure c ∧ (e.selector = .carried ∨ e.selector = .everything) := by
  have carried (c : ClosureId) : s.Matches (.closure c) .carried id ↔
      ∃ e, s.edges.subscriptions[id]? = some e ∧ e.source = .closure c ∧
        (e.selector = .carried ∨ e.selector = .everything) := by
    simp only [Matches, Selector.accepts_carried]
  simp only [Hears, carried, ← exists_and_left]

/-- Pending are those that were and those that hear of the change. -/
theorem Mutates.mem_pending {t : State κ} {node : NodeId} {change : Change} {slot : Slot}
    (h : s.Mutates node change slot t) (id : SubscriptionId) :
    id ∈ t.schedule.pending ↔ id ∈ s.schedule.pending ∨ s.Hears node change id := by
  rw [h.pending, hears_iff]

/-- The owner of a live datum is the one in its record. -/
theorem owns_datum {c : ClosureId} {d : DatumId} {x : Datum} (hd : s.datums[d]? = some x) :
    s.Owns c (.datum d) ↔ x.owner = some c := by
  constructor
  · intro owns
    obtain ⟨a, y, same, hy, owner⟩ := owns
    cases same
    have eq : x = y := Option.some.inj (hd.symm.trans hy)
    rw [eq]
    exact owner
  · intro owner
    exact ⟨d, x, rfl, hd, owner⟩

/-- Nobody owns a closure. -/
theorem not_owns_closure {c b : ClosureId} : ¬ s.Owns c (.closure b) := by
  intro owns
  obtain ⟨_, _, same, _⟩ := owns
  cases same

/-- The state after the owner of a datum, if there is one, has counted a carried change. -/
def bump (s : State κ) (owner : Option ClosureId) : State κ :=
  match owner with
  | none => s
  | some c => s.updateClosure c Closure.bumped

/-- A carried change that is counted changes closures at most. -/
theorem bump_eq (s : State κ) (owner : Option ClosureId) :
    s.bump owner = { s with closures := (s.bump owner).closures } := by
  cases owner with
  | none => rfl
  | some c =>
    rw [bump, updateClosure_eq]

/-- A carried change is counted at the owner alone. -/
theorem getElem?_closures_bump (s : State κ) (owner : Option ClosureId) (c : ClosureId) :
    (s.bump owner).closures[c]? =
      if owner = some c then (s.closures[c]?).map Closure.bumped else s.closures[c]? := by
  cases owner with
  | none => rfl
  | some o =>
    rw [bump, updateClosure_eq]
    simp only [getElem?_modify_eq_map, Option.some.injEq]
    by_cases same : o = c
    · simp [same]
    · simp [same]

end State

namespace Kernel

open State

variable {k k₁ : Kernel κ} {order : EdgeOrder κ}

/-- A carried change is counted, and then those that hear it are pending. -/
theorem toState_carry (k : Kernel κ) (order : EdgeOrder κ) (c : ClosureId) :
    (k.carry order c).toState =
      (k.toState.bump (some c)).withPending (k.carry order c).schedule.pending := by
  unfold carry
  cases hc : k.closures[c]? with
  | none =>
    have still : k.toState.bump (some c) = k.toState := by simp [bump, updateClosure, hc]
    rw [still]
    rfl
  | some x =>
    have bumped : k.toState.bump (some c) = k.toState.putClosure c x.bumped := by
      simp [bump, updateClosure, hc]
    rw [bumped, toState_notify]
    rfl

/-- A delivered change of a datum counts at the owner and makes subscriptions pending. -/
theorem toState_datumChanged {d : DatumId} {x : Datum} (hd : k.datums[d]? = some x)
    (order : EdgeOrder κ) (change : Change) : (k.datumChanged order d change).toState =
      (k.toState.bump x.owner).withPending
        (k.datumChanged order d change).schedule.pending := by
  have notified := toState_notify k order (.datum d) change
  have datums : (k.notify order (.datum d) change).datums = k.datums := by
    rw [notified]
    rfl
  unfold datumChanged
  simp only [datums, hd, Option.bind_some]
  cases owner : x.owner with
  | none => exact notified
  | some c =>
    rw [toState_carry, notified]
    simp only [bump, updateClosure_eq]
    rfl

/-- Writing the slot of a datum and delivering the change. -/
theorem mutates_datum (consistent : k.toState.Consistent) {d : DatumId} {x : Datum}
    (hd : k.datums[d]? = some x) (content : Content) (status : Status) (change : Change)
    (state : k₁.toState =
      k.toState.putDatum d ({ x with content, status }.touch k.generation)) :
    k.toState.Mutates (.datum d) change (.datum content status)
      (k₁.datumChanged order d change).toState := by
  have same : k.toState.SameLinks k₁.toState := by
    rw [state]
    exact .putDatum hd rfl
  have here : k₁.datums[d]? = some ({ x with content, status }.touch k.generation) := by
    rw [state, getElem?_datums_putDatum, if_pos rfl]
  have after := toState_datumChanged here order change
  have closures (c : ClosureId) : (k₁.datumChanged order d change).closures[c]? =
      if x.owner = some c then (k.closures[c]?).map Closure.bumped else k.closures[c]? := by
    rw [after]
    have entry := getElem?_closures_bump k₁.toState x.owner c
    rw [state] at entry
    rw [state]
    exact entry
  have datums : (k₁.datumChanged order d change).datums = k₁.datums := by
    rw [after, bump_eq]
    rfl
  have heard := (datumChanged_spec order (same.edgesIndexed consistent.indexed) d change).2.1
  refine ⟨?_, ?_, ?_, ?_, ?_, ?_, ?_⟩
  · intro id
    have schedule : k₁.schedule = k.schedule := by
      rw [state]
      rfl
    rw [heard, same.hears, schedule, hears_iff]
  · intro a eq
    cases eq
    refine ⟨x, content, status, hd, rfl, ?_⟩
    rw [datums, here]
    rfl
  · intro c eq
    cases eq
  · intro c owns
    have owner : x.owner = some c := (owns_datum hd).mp owns
    obtain ⟨y, hy, _⟩ := consistent.forest.complete.owner d x hd c owner
    refine ⟨y, hy, ?_⟩
    rw [closures, if_pos owner, hy]
    rfl
  · intro a other
    have ne : d ≠ a := fun eq => other (congrArg NodeId.datum eq)
    rw [datums, state, getElem?_datums_putDatum, if_neg ne]
  · intro c _ unowned
    rw [closures, if_neg fun owner => unowned ((owns_datum hd).mpr owner)]
  · rw [after, bump_eq, state]
    rfl

/-- Writing the fields of a closure and delivering the change. -/
theorem mutates_closure (consistent : k.toState.Consistent) {c : ClosureId} {x : Closure}
    (hc : k.closures[c]? = some x) (fields : FieldMap) (change : Change)
    (state : k₁.toState = k.toState.putClosure c ({ x with fields }.touch k.generation)) :
    k.toState.Mutates (.closure c) change (.closure fields)
      (k₁.notify order (.closure c) change).toState := by
  have same : k.toState.SameLinks k₁.toState := by
    rw [state]
    exact .putClosure hc rfl
  have after := toState_notify k₁ order (.closure c) change
  have closures : (k₁.notify order (.closure c) change).closures = k₁.closures := by
    rw [after]
    rfl
  have heard := mem_pending_notify order (same.edgesIndexed consistent.indexed) (.closure c) change
  refine ⟨?_, ?_, ?_, ?_, ?_, ?_, ?_⟩
  · intro id
    have schedule : k₁.schedule = k.schedule := by
      rw [state]
      rfl
    rw [heard, ← hears_closure, same.hears, schedule, hears_iff]
  · intro d eq
    cases eq
  · intro a eq
    cases eq
    refine ⟨x, fields, hc, rfl, ?_⟩
    rw [closures, state, getElem?_closures_putClosure, if_pos rfl]
    rfl
  · intro b owns
    exact absurd owns not_owns_closure
  · intro d _
    rw [after, state]
    rfl
  · intro b other _
    have ne : c ≠ b := fun eq => other (congrArg NodeId.closure eq)
    rw [closures, state, getElem?_closures_putClosure, if_neg ne]
  · rw [after, state]
    rfl

/-- What becomes of a mutation of a node. -/
inductive Mutation (k : Kernel κ) (c : Command κ) (node : NodeId) :
    Except Fault c.Reply × Kernel κ → Prop
  /-- It is refused, since what it asks for cannot be written there. -/
  | refused (fault : Fault) (cannot : (k.toState.slot? node).bind c.requested = none) :
    Mutation k c node (.error fault, k)
  /-- There is nothing to change. -/
  | idle (reply : c.Reply) {before after : Slot} (was : k.toState.slot? node = some before)
    (asked : c.requested before = some after) (there : c.idle before = true)
    (quiet : c.change? (.ok reply) = none) : Mutation k c node (.ok reply, k)
  /-- It is done. -/
  | effective (reply : c.Reply) {k' : Kernel κ} {change : Change} {before after : Slot}
    (was : k.toState.slot? node = some before) (asked : c.requested before = some after)
    (fresh : c.idle before = false) (changes : c.change? (.ok reply) = some (node, change))
    (answers : c.Answers before reply)
    (mutates : k.toState.Mutates node change after k'.toState) : Mutation k c node (.ok reply, k')

namespace Mutation

variable {c : Command κ}

/-- A mutation that fails is refused if what it asks for cannot be written. -/
theorem of_error {node : NodeId} {fault : Fault} (h : c.attempt order k = .error fault)
    (cannot : (k.toState.slot? node).bind c.requested = none) :
    k.Mutation c node (c.perform order k) := by
  rw [Command.perform_of_error h]
  exact .refused fault cannot

/-- A mutation that leaves the kernel as it is had nothing to change. -/
theorem of_idle {node : NodeId} {reply : c.Reply} {before after : Slot}
    (h : c.attempt order k = .ok (reply, k)) (was : k.toState.slot? node = some before)
    (asked : c.requested before = some after) (there : c.idle before = true)
    (quiet : c.change? (.ok reply) = none) : k.Mutation c node (c.perform order k) := by
  rw [Command.perform_of_ok h]
  exact .idle reply was asked there quiet

/-- A mutation that is answered and changes its node is effective. -/
theorem of_ok {node : NodeId} {reply : c.Reply} {k' : Kernel κ} {change : Change}
    {before after : Slot} (h : c.attempt order k = .ok (reply, k'))
    (was : k.toState.slot? node = some before) (asked : c.requested before = some after)
    (fresh : c.idle before = false) (changes : c.change? (.ok reply) = some (node, change))
    (answers : c.Answers before reply) (mutates : k.toState.Mutates node change after k'.toState) :
    k.Mutation c node (c.perform order k) := by
  rw [Command.perform_of_ok h]
  exact .effective reply was asked fresh changes answers mutates

end Mutation

/-- The slot of a live datum holds its content and its status. -/
theorem slot_datum {d : DatumId} {x : Datum} {content : Content} (hd : k.datums[d]? = some x)
    (holds : x.content = content) :
    k.toState.slot? (.datum d) = some (.datum content x.status) := by
  simp [slot?, hd, holds]

/-- The slot of a live closure holds its fields. -/
theorem slot_closure {c : ClosureId} {x : Closure} (hc : k.closures[c]? = some x) :
    k.toState.slot? (.closure c) = some (.closure x.fields) := by
  simp [slot?, hc]

/-- A write to a field of a datum is refused, idle or effective. -/
theorem mutation_setDatumField (consistent : k.toState.Consistent) (d : DatumId) (field : String)
    (value : Value) : k.Mutation (.set (.datum d) field value) (.datum d)
      ((Command.set (.datum d) field value).perform order k) := by
  cases hd : k.datums[d]? with
  | none =>
    have refused : k.setDatumField order d field value = .error (.unknownDatum d) := by
      simp [setDatumField, requireDatum, hd, bind, Except.bind]
    exact .of_error refused (by simp [slot?, hd])
  | some x =>
    cases holds : x.content with
    | collection items =>
      have refused : k.setDatumField order d field value =
          .error (.shapeMismatch d .record .collection) := by
        simp [setDatumField, requireDatum, hd, Datum.requireFields, holds, bind, Except.bind]
      exact .of_error refused (by simp [slot_datum hd holds, Command.requested])
    | record fields =>
      cases same : ((fields[field]?).getD .null).same value with
      | true =>
        have idle : k.setDatumField order d field value = .ok (false, k) := by
          simp [setDatumField, requireDatum, hd, Datum.requireFields, holds, same, bind,
            Except.bind, pure, Except.pure]
        exact .of_idle idle (slot_datum hd holds) rfl same rfl
      | false =>
        let written := k.mapState (·.putDatum d
          ({ x with content := .record (fields.insert field value) }.touch k.generation))
        let announced := written.announceField (.datum d) field ((fields[field]?).getD .null) value
        have done : k.setDatumField order d field value =
            .ok (true, announced.datumChanged order d (.field field)) := by
          simp [setDatumField, requireDatum, hd, Datum.requireFields, holds, same, bind,
            Except.bind, pure, Except.pure, announced, written]
        exact .of_ok done (slot_datum hd holds) rfl same rfl trivial
          (mutates_datum consistent hd (.record (fields.insert field value)) x.status _ rfl)

/-- A write to a field of a closure is refused, idle or effective. -/
theorem mutation_setClosureField (consistent : k.toState.Consistent) (c : ClosureId)
    (field : String) (value : Value) : k.Mutation (.set (.closure c) field value) (.closure c)
      ((Command.set (.closure c) field value).perform order k) := by
  cases hc : k.closures[c]? with
  | none =>
    have refused : k.setClosureField order c field value = .error (.unknownClosure c) := by
      simp [setClosureField, requireClosure, hc, bind, Except.bind]
    exact .of_error refused (by simp [slot?, hc])
  | some x =>
    cases same : ((x.fields[field]?).getD .null).same value with
    | true =>
      have idle : k.setClosureField order c field value = .ok (false, k) := by
        simp [setClosureField, requireClosure, hc, same, bind, Except.bind, pure, Except.pure]
      exact .of_idle idle (slot_closure hc) rfl same rfl
    | false =>
      let written := k.mapState (·.putClosure c
        ({ x with fields := x.fields.insert field value }.touch k.generation))
      let announced :=
        written.announceField (.closure c) field ((x.fields[field]?).getD .null) value
      have done : k.setClosureField order c field value =
          .ok (true, announced.notify order (.closure c) (.field field)) := by
        simp [setClosureField, requireClosure, hc, same, bind, Except.bind, pure, Except.pure,
          announced, written]
      exact .of_ok done (slot_closure hc) rfl same rfl trivial
        (mutates_closure consistent hc (x.fields.insert field value) _ rfl)

/-- The replacement of items changes the slot of the datum. -/
theorem mutates_replaceItems (consistent : k.toState.Consistent) {d : DatumId} {x : Datum}
    (hd : k.datums[d]? = some x) (items : List Value) :
    k.toState.Mutates (.datum d) .items (.datum (.collection items) x.status)
      (k.replaceItems order d x items).toState :=
  mutates_datum consistent hd (.collection items) x.status _ rfl

/-- A mutation of the items of a datum is decided by what it does to a collection. -/
theorem mutation_items {c : Command κ} {d : DatumId}
    (unknown : k.datums[d]? = none → c.attempt order k = .error (.unknownDatum d))
    (record : ∀ x fields, k.datums[d]? = some x → x.content = .record fields →
      c.attempt order k = .error (.shapeMismatch d .collection .record) ∧
        c.requested (.datum (.record fields) x.status) = none)
    (collection : ∀ x items, k.datums[d]? = some x → x.content = .collection items →
      k.Mutation c (.datum d) (c.perform order k)) :
    k.Mutation c (.datum d) (c.perform order k) := by
  cases hd : k.datums[d]? with
  | none => exact .of_error (unknown hd) (by simp [slot?, hd])
  | some x =>
    cases holds : x.content with
    | record fields =>
      obtain ⟨refused, cannot⟩ := record x fields hd holds
      exact .of_error refused (by simp [slot_datum hd holds, cannot])
    | collection items => exact collection x items hd holds

/-- New items for a collection are refused or effective. -/
theorem mutation_setItems (consistent : k.toState.Consistent) (d : DatumId)
    (items : List Value) :
    k.Mutation (.setItems d items) (.datum d) ((Command.setItems d items).perform order k) := by
  apply mutation_items
  · intro hd
    have refused : k.setItems order d items = .error (.unknownDatum d) := by
      simp [setItems, requireDatum, hd, bind, Except.bind]
    exact refused
  · intro x fields hd holds
    have refused : k.setItems order d items = .error (.shapeMismatch d .collection .record) := by
      simp [setItems, requireDatum, hd, Datum.requireItems, holds, bind, Except.bind]
    exact ⟨refused, rfl⟩
  · intro x old hd holds
    have done : k.setItems order d items = .ok ((), k.replaceItems order d x items) := by
      simp [setItems, requireDatum, hd, Datum.requireItems, holds, bind, Except.bind, pure,
        Except.pure]
    exact .of_ok done (slot_datum hd holds) rfl rfl rfl trivial
      (mutates_replaceItems consistent hd items)

/-- One more item for a collection is refused or effective. -/
theorem mutation_pushItem (consistent : k.toState.Consistent) (d : DatumId) (value : Value) :
    k.Mutation (.pushItem d value) (.datum d) ((Command.pushItem d value).perform order k) := by
  apply mutation_items
  · intro hd
    have refused : k.pushItem order d value = .error (.unknownDatum d) := by
      simp [pushItem, requireDatum, hd, bind, Except.bind]
    exact refused
  · intro x fields hd holds
    have refused : k.pushItem order d value = .error (.shapeMismatch d .collection .record) := by
      simp [pushItem, requireDatum, hd, Datum.requireItems, holds, bind, Except.bind]
    exact ⟨refused, rfl⟩
  · intro x items hd holds
    have done : k.pushItem order d value =
        .ok ((), k.replaceItems order d x (items ++ [value])) := by
      simp [pushItem, requireDatum, hd, Datum.requireItems, holds, bind, Except.bind, pure,
        Except.pure]
    exact .of_ok done (slot_datum hd holds) rfl rfl rfl trivial
      (mutates_replaceItems consistent hd _)

/-- A write to an item of a collection is refused, idle or effective. -/
theorem mutation_setItem (consistent : k.toState.Consistent) (d : DatumId) (index : Nat)
    (value : Value) : k.Mutation (.setItem d index value) (.datum d)
      ((Command.setItem d index value).perform order k) := by
  apply mutation_items
  · intro hd
    have refused : k.setItem order d index value = .error (.unknownDatum d) := by
      simp [setItem, requireDatum, hd, bind, Except.bind]
    exact refused
  · intro x fields hd holds
    have refused : k.setItem order d index value =
        .error (.shapeMismatch d .collection .record) := by
      simp [setItem, requireDatum, hd, Datum.requireItems, holds, bind, Except.bind]
    exact ⟨refused, rfl⟩
  · intro x items hd holds
    cases at_index : items[index]? with
    | none =>
      have refused : k.setItem order d index value =
          .error (.itemIndexOutOfRange d index items.length) := by
        simp [setItem, requireDatum, hd, Datum.requireItems, holds, at_index, bind, Except.bind,
          throw, throwThe, MonadExceptOf.throw]
      have beyond : ¬ index < items.length := by
        simpa using at_index
      exact .of_error refused (by simp [slot_datum hd holds, Command.requested, beyond])
    | some old =>
      have within : index < items.length := (List.getElem?_eq_some_iff.mp at_index).1
      have asked : (Command.setItem d index value : Command κ).requested
          (.datum (.collection items) x.status) =
            some (.datum (.collection (items.set index value)) x.status) := if_pos within
      cases same : old.same value with
      | true =>
        have idle : k.setItem order d index value = .ok (false, k) := by
          simp [setItem, requireDatum, hd, Datum.requireItems, holds, at_index, same, bind,
            Except.bind, pure, Except.pure]
        exact .of_idle idle (slot_datum hd holds) asked (by simp [Command.idle, at_index, same]) rfl
      | false =>
        have done : k.setItem order d index value =
            .ok (true, k.replaceItems order d x (items.set index value)) := by
          simp [setItem, requireDatum, hd, Datum.requireItems, holds, at_index, same, bind,
            Except.bind, pure, Except.pure]
        exact .of_ok done (slot_datum hd holds) asked (by simp [Command.idle, at_index, same]) rfl
          trivial (mutates_replaceItems consistent hd _)

/-- The removal of an item from a collection is refused or effective. -/
theorem mutation_removeItem (consistent : k.toState.Consistent) (d : DatumId) (index : Nat) :
    k.Mutation (.removeItem d index) (.datum d)
      ((Command.removeItem d index).perform order k) := by
  apply mutation_items
  · intro hd
    have refused : k.removeItem order d index = .error (.unknownDatum d) := by
      simp [removeItem, requireDatum, hd, bind, Except.bind]
    exact refused
  · intro x fields hd holds
    have refused : k.removeItem order d index = .error (.shapeMismatch d .collection .record) := by
      simp [removeItem, requireDatum, hd, Datum.requireItems, holds, bind, Except.bind]
    exact ⟨refused, rfl⟩
  · intro x items hd holds
    cases at_index : items[index]? with
    | none =>
      have refused : k.removeItem order d index =
          .error (.itemIndexOutOfRange d index items.length) := by
        simp [removeItem, requireDatum, hd, Datum.requireItems, holds, at_index, bind,
          Except.bind, throw, throwThe, MonadExceptOf.throw]
      have beyond : ¬ index < items.length := by
        simpa using at_index
      exact .of_error refused (by simp [slot_datum hd holds, Command.requested, beyond])
    | some removed =>
      have within : index < items.length := (List.getElem?_eq_some_iff.mp at_index).1
      have done : k.removeItem order d index =
          .ok (removed, k.replaceItems order d x (items.eraseIdx index)) := by
        simp [removeItem, requireDatum, hd, Datum.requireItems, holds, at_index, bind,
          Except.bind, pure, Except.pure]
      exact .of_ok done (slot_datum hd holds) (if_pos within) rfl rfl at_index
        (mutates_replaceItems consistent hd _)

/-- A mutation of the status of a datum, whatever the status it asks for. -/
theorem mutation_status (consistent : k.toState.Consistent) {c : Command κ} {d : DatumId}
    (target : Status → Status)
    (unknown : k.datums[d]? = none → c.attempt order k = .error (.unknownDatum d))
    (live : ∀ x, k.datums[d]? = some x → ∃ reply : Bool → c.Reply,
      (c.attempt order k = .ok (reply (k.updateStatus order d x (target x.status)).1,
        (k.updateStatus order d x (target x.status)).2)) ∧
      ∀ b, c.change? (.ok (reply b)) = if b then some (.datum d, .availability) else none)
    (asks : ∀ content status,
      c.requested (.datum content status) = some (.datum content (target status)) ∧
      c.idle (.datum content status) = status.same (target status))
    (answers : ∀ slot reply, c.Answers slot reply) :
    k.Mutation c (.datum d) (c.perform order k) := by
  cases hd : k.datums[d]? with
  | none => exact .of_error (unknown hd) (by simp [slot?, hd])
  | some x =>
    obtain ⟨reply, done, changes⟩ := live x hd
    obtain ⟨asked, idle⟩ := asks x.content x.status
    cases same : x.status.same (target x.status) with
    | true =>
      have still : k.updateStatus order d x (target x.status) = (false, k) := by
        simp [updateStatus, same]
      rw [still] at done
      exact .of_idle done (slot_datum hd rfl) asked (idle.trans same) (changes false)
    | false =>
      let written := k.mapState
        (·.putDatum d ({ x with status := target x.status }.touch k.generation))
      let announced := (written.emit (.availabilitySet d (target x.status) written.generation)).log
        (.availabilitySet d (target x.status).availability)
      have effective : k.updateStatus order d x (target x.status) =
          (true, announced.datumChanged order d .availability) := by
        simp [updateStatus, same, announced, written]
      rw [effective] at done
      have state : announced.toState = k.toState.putDatum d
          ({ x with status := target x.status }.touch k.generation) := by
        simp [announced, written]
      exact .of_ok done (slot_datum hd rfl) asked (idle.trans same) (changes true) (answers _ _)
        (mutates_datum consistent hd x.content (target x.status) _ state)

/-- A new availability of a datum is refused, idle or effective. -/
theorem mutation_setAvailability (consistent : k.toState.Consistent) (d : DatumId)
    (a : Availability) : k.Mutation (.setAvailability d a) (.datum d)
      ((Command.setAvailability d a).perform order k) := by
  apply mutation_status consistent (·.withAvailability a)
  · intro hd
    have refused : k.setAvailability order d a = .error (.unknownDatum d) := by
      simp [setAvailability, requireDatum, hd, bind, Except.bind]
    exact refused
  · intro x hd
    have done : k.setAvailability order d a =
        .ok (k.updateStatus order d x (x.status.withAvailability a)) := by
      simp [setAvailability, requireDatum, hd, bind, Except.bind, pure, Except.pure]
    exact ⟨id, done, fun _ => rfl⟩
  · intro content status
    cases a <;> exact ⟨rfl, rfl⟩
  · exact fun _ _ => trivial

/-- A new error of a datum is refused, idle or effective. -/
theorem mutation_setError (consistent : k.toState.Consistent) (d : DatumId) (payload : Value) :
    k.Mutation (.setError d payload) (.datum d)
      ((Command.setError d payload).perform order k) := by
  apply mutation_status consistent fun _ => .failed (some payload)
  · intro hd
    have refused : k.setError order d payload = .error (.unknownDatum d) := by
      simp [setError, requireDatum, hd, bind, Except.bind]
    exact refused
  · intro x hd
    have done : k.setError order d payload =
        .ok (k.updateStatus order d x (.failed (some payload))) := by
      simp [setError, requireDatum, hd, bind, Except.bind, pure, Except.pure]
    exact ⟨id, done, fun _ => rfl⟩
  · exact fun _ _ => ⟨rfl, rfl⟩
  · exact fun _ _ => trivial

/-- Every mutation is refused, finds nothing to change, or is done exactly. -/
theorem perform_mutation (consistent : k.toState.Consistent) {c : Command κ} {node : NodeId}
    (on : c.mutates? = some node) : k.Mutation c node (c.perform order k) := by
  cases c with
  | set n field value =>
    cases on
    cases node with
    | datum d => exact mutation_setDatumField consistent d field value
    | closure c => exact mutation_setClosureField consistent c field value
  | setItems d items =>
    cases on
    exact mutation_setItems consistent d items
  | setItem d index value =>
    cases on
    exact mutation_setItem consistent d index value
  | pushItem d value =>
    cases on
    exact mutation_pushItem consistent d value
  | removeItem d index =>
    cases on
    exact mutation_removeItem consistent d index
  | setAvailability d a =>
    cases on
    exact mutation_setAvailability consistent d a
  | setError d payload =>
    cases on
    exact mutation_setError consistent d payload
  | createDatum _ _ _ | createCollection _ _ _ | createClosure _ _ | subscribe _ _ _ _
  | unsubscribe _ | destroyDatum _ | destroyClosure _ | putEvent _ | register _ _ => cases on

/-- In every reachable kernel a mutation that is effective changes its node as it was asked to and
nothing that it was not, and one that is not effective changes nothing at all. It is effective
just if what it asks for can be written at its node and is not there yet. -/
theorem mutation_exact (h : k.Reachable) (order : EdgeOrder κ) {c : Command κ} {node : NodeId}
    (on : c.mutates? = some node) :
    (∀ n change, c.change? (c.perform order k).1 = some (n, change) → n = node ∧
      ∃ before after, k.toState.slot? node = some before ∧ c.requested before = some after ∧
        (∃ reply, (c.perform order k).1 = .ok reply ∧ c.Answers before reply) ∧
        k.toState.Mutates node change after (c.perform order k).2.toState) ∧
    (c.change? (c.perform order k).1 = none → (c.perform order k).2 = k) ∧
    ((c.change? (c.perform order k).1).isSome ↔ ∃ before after,
      k.toState.slot? node = some before ∧ c.requested before = some after ∧
        c.idle before = false) := by
  have mutation : k.Mutation c node (c.perform order k) := perform_mutation h.consistent on
  generalize c.perform order k = result at mutation
  cases mutation with
  | refused fault cannot =>
    refine ⟨?_, fun _ => rfl, ?_⟩
    · intro n change changes
      rw [c.change_error] at changes
      cases changes
    · rw [c.change_error]
      constructor
      · intro some
        cases some
      · intro possible
        obtain ⟨before, after, was, asked, _⟩ := possible
        simp [was, asked] at cannot
  | idle reply was asked there quiet =>
    refine ⟨?_, fun _ => rfl, ?_⟩
    · intro n change changes
      rw [quiet] at changes
      cases changes
    · rw [quiet]
      constructor
      · intro some
        cases some
      · intro possible
        obtain ⟨before, after, was', _, fresh⟩ := possible
        cases was.symm.trans was'
        rw [there] at fresh
        cases fresh
  | effective reply was asked fresh changes answers mutates =>
    refine ⟨?_, ?_, ?_⟩
    · intro n change same
      cases changes.symm.trans same
      exact ⟨rfl, _, _, was, asked, ⟨reply, rfl, answers⟩, mutates⟩
    · intro quiet
      rw [changes] at quiet
      cases quiet
    · rw [changes]
      exact ⟨fun _ => ⟨_, _, was, asked, fresh⟩, fun _ => rfl⟩

/-- A closure that watches for carried changes and owns a record whose field is watched. -/
def watched : Kernel Unit :=
  (Kernel.create .standard .empty).performAll .ascending
    [.createClosure "Root" none, .createDatum "Cell" [("x", .int 0)] (some ⟨0⟩),
     .subscribe (.datum ⟨0⟩) (.closure ⟨0⟩) (.key "x") (),
     .subscribe (.datum ⟨0⟩) (.closure ⟨0⟩) (.key "y") (),
     .subscribe (.closure ⟨0⟩) (.closure ⟨0⟩) .carried ()]

/-- A write to the field reaches the subscription of the field and the one at the owner, and
writing what is there changes nothing. -/
theorem mutation_exact_watched :
    watched.Reachable ∧
    (Command.set (.datum ⟨0⟩) "x" (.int 1) : Command Unit).mutates? = some (.datum ⟨0⟩) ∧
    (∀ id, id ∈ ((Command.set (.datum ⟨0⟩) "x" (.int 1)).perform .ascending
      watched).2.schedule.pending ↔ id ∈ watched.schedule.pending ∨
        watched.toState.Hears (.datum ⟨0⟩) (.field "x") id) ∧
    ((Command.set (.datum ⟨0⟩) "x" (.int 0)).perform .ascending watched).2 = watched := by
  have reachable : watched.Reachable := reachable_performAll _ _ _ _
  obtain ⟨effective, _, _⟩ := mutation_exact reachable .ascending
    (c := .set (.datum ⟨0⟩) "x" (.int 1)) rfl
  obtain ⟨_, idle, _⟩ := mutation_exact reachable .ascending
    (c := .set (.datum ⟨0⟩) "x" (.int 0)) rfl
  obtain ⟨_, _, _, _, _, _, mutates⟩ := effective (.datum ⟨0⟩) (.field "x") (by decide)
  refine ⟨reachable, rfl, ?_, idle (by decide)⟩
  intro id
  rw [mutates.pending, hears_iff]

end Kernel

end ReactiveKernel
