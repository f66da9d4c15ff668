import ReactiveKernel.Proofs.Mutation

/-!
# What a write does to what is read

After a write of a plain value every field reads as before, except the one that was written. If it
reads differently now, then the subscriptions that match its change are pending.
-/

namespace ReactiveKernel

variable {κ : Type}

/-- A value that is no double. -/
def Value.IsPlain : Value → Prop
  | .float _ => False
  | _ => True

/-- Plain values are the same for the purposes of change detection only if they are equal. -/
theorem Value.eq_of_same {old new : Value} (plain : new.IsPlain) (h : old.same new = true) :
    old = new := by
  cases old <;> cases new <;> simp_all [same, IsPlain]

/-- The fields of a record or of a closure. -/
def Slot.fields? : Slot → Option FieldMap
  | .datum (.record fields) _ => some fields
  | .closure fields => some fields
  | .datum (.collection _) _ => none

/-- The fields that are read at a node with some slot. -/
def NodeId.read : NodeId → Option Slot → Except Fault FieldMap
  | .datum d, none => .error (.unknownDatum d)
  | .datum d, some (.datum (.collection _) _) => .error (.shapeMismatch d .record .collection)
  | .closure c, none => .error (.unknownClosure c)
  | .closure c, some (.datum (.collection _) _) => .error (.unknownClosure c)
  | _, some (.datum (.record fields) _) => .ok fields
  | _, some (.closure fields) => .ok fields

/-- The fields of a node are read exactly if it has a slot with fields. -/
theorem NodeId.read_eq_ok {n : NodeId} {slot : Option Slot} {fields : FieldMap} :
    n.read slot = .ok fields ↔ ∃ x, slot = some x ∧ x.fields? = some fields := by
  cases slot with
  | none => cases n <;> simp [read]
  | some x =>
    cases x with
    | datum content status => cases content <;> cases n <;> simp [read, Slot.fields?]
    | closure own => cases n <;> simp [read, Slot.fields?]

namespace State

variable {s t : State κ} {node n : NodeId} {field name : String}

/-- What can be read at a node depends on what is written there. -/
theorem fieldsOf_eq_read (s : State κ) (n : NodeId) : s.fieldsOf n = n.read (s.slot? n) := by
  cases n with
  | datum d =>
    simp only [fieldsOf, requireDatum, slot?]
    cases s.datums[d]? with
    | none => rfl
    | some x =>
      cases content : x.content <;>
        simp [Datum.requireFields, content, bind, Except.bind, NodeId.read]
  | closure c =>
    simp only [fieldsOf, requireClosure, slot?]
    cases s.closures[c]? <;> rfl

/-- What a field holds is determined by the slot of the node. -/
theorem field?_congr (h : t.slot? n = s.slot? n) (name : String) :
    t.field? n name = s.field? n name := by
  simp only [field?, fieldsOf_eq_read, h]

/-- A field holds what the slot of its node says, if that has fields. -/
theorem field?_eq_ok {v : Option Value} : s.field? n name = .ok v ↔
    ∃ slot fields, s.slot? n = some slot ∧ slot.fields? = some fields ∧ fields[name]? = v := by
  constructor
  · intro h
    obtain ⟨fields, holds, same⟩ := Kernel.bind_eq_ok.mp h
    rw [fieldsOf_eq_read, NodeId.read_eq_ok] at holds
    obtain ⟨slot, here, own⟩ := holds
    cases same
    exact ⟨slot, fields, here, own, rfl⟩
  · intro h
    obtain ⟨slot, fields, here, own, rfl⟩ := h
    have holds : s.fieldsOf n = .ok fields := by
      rw [fieldsOf_eq_read, NodeId.read_eq_ok]
      exact ⟨slot, here, own⟩
    simp [field?, holds, bind, Except.bind, pure, Except.pure]

/-- What a field reads as is determined by what it holds. -/
theorem get_congr (h : t.field? n name = s.field? n name) : t.get n name = s.get n name := by
  simp only [get, h]

/-- A field reads as null if it is absent from the fields of its node. -/
theorem get_eq_ok {v : Value} : s.get n name = .ok v ↔
    ∃ slot fields, s.slot? n = some slot ∧ slot.fields? = some fields ∧
      (fields[name]?).getD .null = v := by
  constructor
  · intro h
    obtain ⟨o, ho, same⟩ := Kernel.bind_eq_ok.mp h
    obtain ⟨slot, fields, here, own, rfl⟩ := field?_eq_ok.mp ho
    cases same
    exact ⟨slot, fields, here, own, rfl⟩
  · intro h
    obtain ⟨slot, fields, here, own, rfl⟩ := h
    have holds : s.field? n name = .ok fields[name]? :=
      field?_eq_ok.mpr ⟨slot, fields, here, own, rfl⟩
    simp only [get, holds, bind, Except.bind, pure, Except.pure]

/-- A change writes the slot of its node and no other. -/
theorem Mutates.slot? {change : Change} {slot : Slot} (h : s.Mutates node change slot t)
    (n : NodeId) : t.slot? n = if n = node then some slot else s.slot? n := by
  cases n with
  | datum d =>
    by_cases here : NodeId.datum d = node
    · obtain ⟨x, content, status, _, eq, written⟩ := h.datum d here.symm
      rw [if_pos here]
      simp [State.slot?, written, eq]
    · rw [if_neg here]
      simp only [State.slot?, h.other_datums d (Ne.symm here)]
  | closure c =>
    by_cases here : NodeId.closure c = node
    · obtain ⟨x, fields, _, eq, written⟩ := h.closure c here.symm
      rw [if_pos here]
      simp [State.slot?, written, eq]
    · rw [if_neg here]
      by_cases owns : s.Owns c node
      · obtain ⟨x, hx, bumped⟩ := h.owner c owns
        simp [State.slot?, hx, bumped]
      · simp only [State.slot?, h.other_closures c (Ne.symm here) owns]

end State

/-- A write puts its value in place of what a field holds. -/
theorem Command.set_requested {node : NodeId} {field : String} {value : Value}
    {before after : Slot}
    (asked : (Command.set node field value : Command κ).requested before = some after) :
    ∃ fields, before.fields? = some fields ∧ after.fields? = some (fields.insert field value) ∧
      (Command.set node field value : Command κ).idle before =
        ((fields[field]?).getD .null).same value := by
  cases before with
  | datum content status =>
    cases content with
    | record fields =>
      cases asked
      exact ⟨fields, rfl, rfl, rfl⟩
    | collection items => cases asked
  | closure fields =>
    cases asked
    exact ⟨fields, rfl, rfl, rfl⟩

/-- A field can be written wherever there are fields. -/
theorem Command.set_possible (node : NodeId) (field : String) (value : Value)
    {before : Slot} {fields : FieldMap} (holds : before.fields? = some fields) :
    ∃ after, (Command.set node field value : Command κ).requested before = some after := by
  cases before with
  | datum content status =>
    cases content with
    | record own => exact ⟨_, rfl⟩
    | collection items => cases holds
  | closure own => exact ⟨_, rfl⟩

namespace Kernel

open State

/-- What a write of a plain value does to what is read and to what is pending. -/
structure Writes (k : Kernel κ) (node : NodeId) (field : String) (value : Value) (k' : Kernel κ) :
    Prop where
  /-- The state is consistent. -/
  consistent : k'.toState.Consistent
  /-- The field holds the value if it could be read. -/
  written : k'.get node field = (k.get node field).map fun _ => value
  /-- Every other field is as it was. -/
  other : ∀ n name, ¬ (n = node ∧ name = field) → k'.field? n name = k.field? n name
  /-- The subscriptions are the same. -/
  edges : k'.edges = k.edges
  /-- The settings are the same. -/
  settings : k'.settings = k.settings
  /-- A drain is running exactly if one was running. -/
  draining : k'.schedule.draining = k.schedule.draining
  /-- What was pending is pending. -/
  pending : ∀ id ∈ k.schedule.pending, id ∈ k'.schedule.pending
  /-- Whatever else is pending matches the change, or a carried change. -/
  fresh : ∀ id ∈ k'.schedule.pending, id ∈ k.schedule.pending ∨
    k.toState.Matches node (.field field) id ∨
      ∃ e, k.edges.subscriptions[id]? = some e ∧ e.selector.accepts .carried = true
  /-- If the field reads differently, then the subscriptions that match its change are pending. -/
  told : k'.get node field = k.get node field ∨
    ∀ id, k.toState.Matches node (.field field) id → id ∈ k'.schedule.pending

variable {k k' : Kernel κ} {order : EdgeOrder κ} {node : NodeId} {field : String} {value : Value}

/-- The field reads as the value if it could be read, and every other one reads as before. -/
theorem Writes.get (h : k.Writes node field value k') (n : NodeId) (name : String) :
    k'.get n name = if n = node ∧ name = field then (k.get n name).map fun _ => value
      else k.get n name := by
  split
  · next here =>
    rw [here.1, here.2]
    exact h.written
  · next other => exact get_congr (h.other n name other)

/-- A write of what a field holds, or one that is refused, changes nothing. -/
theorem Writes.idle (consistent : k.toState.Consistent)
    (there : k.get node field = (k.get node field).map fun _ => value) :
    k.Writes node field value k :=
  ⟨consistent, there, fun _ _ _ => rfl, rfl, rfl, rfl, fun _ h => h, fun _ h => .inl h, .inl rfl⟩

/-- A write that is effective. -/
theorem Writes.effective {before after : Slot}
    (consistent : k'.toState.Consistent) (was : k.toState.slot? node = some before)
    (asked : (Command.set node field value : Command κ).requested before = some after)
    (mutates : k.toState.Mutates node (.field field) after k'.toState) :
    k.Writes node field value k' := by
  obtain ⟨fields, holds, holds', _⟩ := Command.set_requested asked
  have rest := mutates.rest
  refine ⟨consistent, ?_, fun n name other => ?_, ?_, ?_, ?_, ?_, ?_, .inr ?_⟩
  · have slot := (mutates.slot? node).trans (if_pos rfl)
    have old : k.get node field = .ok ((fields[field]?).getD .null) :=
      get_eq_ok.mpr ⟨before, fields, was, holds, rfl⟩
    have new : k'.get node field = .ok (((fields.insert field value)[field]?).getD .null) :=
      get_eq_ok.mpr ⟨after, _, slot, holds', rfl⟩
    rw [old, new, Std.ExtTreeMap.getElem?_insert_self]
    rfl
  · have slot := mutates.slot? n
    by_cases here : n = node
    · have ne : field ≠ name := fun same => other ⟨here, same.symm⟩
      rw [if_pos here] at slot
      have old : k.field? n name = .ok fields[name]? :=
        field?_eq_ok.mpr ⟨before, fields, here ▸ was, holds, rfl⟩
      have new : k'.field? n name = .ok (fields.insert field value)[name]? :=
        field?_eq_ok.mpr ⟨after, _, slot, holds', rfl⟩
      rw [old, new, Std.ExtTreeMap.getElem?_insert]
      simp [ne]
    · exact field?_congr (slot.trans (if_neg here)) name
  · rw [rest]
  · rw [rest]
  · rw [rest]
  · intro id hid
    exact (mutates.pending id).mpr (.inl hid)
  · intro id hid
    rcases (mutates.pending id).mp hid with old | own | ⟨_, e, _, registered, _, carried⟩
    · exact .inl old
    · exact .inr (.inl own)
    · exact .inr (.inr ⟨e, registered, Selector.accepts_carried.mpr carried⟩)
  · intro id hears
    exact (mutates.pending id).mpr (.inr (.inl hears))

/-- A write of a plain value, and its answer if the field can be read. -/
theorem perform_set (consistent : k.toState.Consistent) (order : EdgeOrder κ) (node : NodeId)
    (field : String) (plain : value.IsPlain) :
    k.Writes node field value ((Command.set node field value).perform order k).2 ∧
      ∀ old, k.get node field = .ok old →
        ∃ effective, ((Command.set node field value).perform order k).1 = .ok effective := by
  have mutation : k.Mutation (.set node field value) node
      ((Command.set node field value).perform order k) := perform_mutation consistent rfl
  have kept : ((Command.set node field value).perform order k).2.toState.Consistent :=
    (perform_effect consistent (.set node field value)).consistent consistent
  generalize (Command.set node field value).perform order k = result at mutation kept
  cases mutation with
  | refused fault cannot =>
    have unreadable (old : Value) : k.get node field ≠ .ok old := by
      intro readable
      obtain ⟨before, fields, was, holds, _⟩ := get_eq_ok.mp readable
      obtain ⟨after, asked⟩ := Command.set_possible (κ := κ) node field value holds
      rw [was, Option.bind_some, asked] at cannot
      cases cannot
    refine ⟨.idle consistent ?_, fun old readable => absurd readable (unreadable old)⟩
    cases read : k.get node field with
    | error fault => rfl
    | ok old => exact absurd read (unreadable old)
  | idle reply was asked there quiet =>
    obtain ⟨fields, holds, _, idle⟩ := Command.set_requested asked
    have read : k.get node field = .ok ((fields[field]?).getD .null) :=
      get_eq_ok.mpr ⟨_, fields, was, holds, rfl⟩
    have same := Value.eq_of_same plain (idle.symm.trans there)
    refine ⟨.idle consistent ?_, fun old _ => ⟨reply, rfl⟩⟩
    rw [read, same]
    rfl
  | effective reply was asked fresh changes answers mutates =>
    refine ⟨?_, fun old _ => ⟨reply, rfl⟩⟩
    cases b : (show Bool from reply) with
    | true =>
      subst b
      cases changes
      exact .effective kept was asked mutates
    | false =>
      subst b
      cases changes

end Kernel

end ReactiveKernel
