import ReactiveKernel.Proofs.Repetition
import ReactiveKernel.Proofs.Store.Answer
import ReactiveKernel.Proofs.Store.Writing

/-!
# The algebra of the store

A field that was written reads as what was written, every other field reads as before, and to write
the same once more changes nothing. Mutations of different nodes, and writes to different fields of
one node, give the same answers and lead to the same state in either order. So it does not matter in
which order the callbacks of a wave make such changes.
-/

namespace ReactiveKernel

variable {κ : Type}

/-- Different fields can be inserted in either order. -/
theorem FieldMap.insert_insert {fields : FieldMap} {field field' : String} (ne : field ≠ field')
    (value value' : Value) : (fields.insert field value).insert field' value' =
      (fields.insert field' value').insert field value := by
  refine Std.ExtTreeMap.ext_getElem? fun name => ?_
  simp only [Std.ExtTreeMap.getElem?_insert, Std.LawfulEqCmp.compare_eq_iff_eq]
  split_ifs with here there
  · exact absurd (there.trans here.symm) ne
  · rfl
  · rfl
  · rfl

/-- Two mutations that are apart: they are of different nodes, or they write different fields. -/
inductive Command.Apart : Command κ → Command κ → Prop
  | nodes {c c' : Command κ} {node node' : NodeId} (on : c.mutates? = some node)
    (on' : c'.mutates? = some node') (ne : node ≠ node') : Apart c c'
  | fields (node : NodeId) {field field' : String} (value value' : Value) (ne : field ≠ field') :
    Apart (.set node field value) (.set node field' value')

namespace Command

variable {c c' : Command κ}

theorem Apart.symm (h : c.Apart c') : c'.Apart c := by
  cases h with
  | nodes on on' ne => exact .nodes on' on ne.symm
  | fields node value value' ne => exact .fields node value' value ne.symm

/-- Both commands of a pair that is apart are mutations. -/
theorem Apart.exists_mutates (h : c.Apart c') : ∃ node, c.mutates? = some node := by
  cases h with
  | nodes on _ _ => exact ⟨_, on⟩
  | fields node _ _ _ => exact ⟨node, rfl⟩

/-- Writes to different fields ask for the same slot in either order. -/
theorem requested_set_comm (node : NodeId) {field field' : String} (ne : field ≠ field')
    (value value' : Value) (slot : Slot) :
    ((Command.set node field value : Command κ).requested slot).bind
        (Command.set node field' value' : Command κ).requested =
      ((Command.set node field' value' : Command κ).requested slot).bind
        (Command.set node field value : Command κ).requested := by
  cases slot with
  | datum content status =>
    cases content with
    | record fields => simp [requested, FieldMap.insert_insert ne]
    | collection items => rfl
  | closure fields => simp [requested, FieldMap.insert_insert ne]

end Command

namespace Kernel

open State

variable {k k' : Kernel κ} {order order' : EdgeOrder κ} {c c' : Command κ} {node : NodeId}

/-- What became of the state under a mutation can be told from the answer. -/
structure Settles (k : Kernel κ) (c : Command κ) (node : NodeId)
    (result : Except Fault c.Reply × Kernel κ) : Prop where
  /-- It changed nothing. -/
  idle : c.change? result.1 = none → result.2 = k
  /-- It changed the node. -/
  change : ∀ at' change, c.change? result.1 = some (at', change) → ∃ slot,
    (k.toState.slot? node).bind c.requested = some slot ∧
      k.toState.Mutates node change slot result.2.toState

/-- Every mutation settles in a consistent state. -/
theorem settles (consistent : k.toState.Consistent) (order : EdgeOrder κ)
    (on : c.mutates? = some node) : k.Settles c node (c.perform order k) := by
  have mutation : k.Mutation c node (c.perform order k) := perform_mutation consistent on
  generalize c.perform order k = result at mutation
  cases mutation with
  | refused fault cannot =>
    refine ⟨fun _ => rfl, fun n change changes => ?_⟩
    rw [c.change_error] at changes
    cases changes
  | idle reply was asked there quiet =>
    refine ⟨fun _ => rfl, fun n change changes => ?_⟩
    cases quiet.symm.trans changes
  | effective reply was asked fresh changes answers mutates =>
    refine ⟨fun quiet => ?_, fun n change same => ?_⟩
    · cases changes.symm.trans quiet
    · cases changes.symm.trans same
      exact ⟨_, by rw [was]; exact asked, mutates⟩

/-- A mutation keeps the slots of other nodes. -/
theorem Settles.slot?_other {result : Except Fault c.Reply × Kernel κ} {other : NodeId}
    (h : k.Settles c node result) (ne : node ≠ other) :
    result.2.toState.slot? other = k.toState.slot? other := by
  cases changes : c.change? result.1 with
  | none => rw [h.idle changes]
  | some change =>
    obtain ⟨_, _, mutates⟩ := h.change _ _ changes
    exact mutates.slot?_other ne

/-- A mutation moves on neither the generation nor anything else but contents. -/
theorem Settles.generation {result : Except Fault c.Reply × Kernel κ}
    (h : k.Settles c node result) : result.2.generation = k.generation := by
  cases changes : c.change? result.1 with
  | none => rw [h.idle changes]
  | some change =>
    obtain ⟨_, _, mutates⟩ := h.change _ _ changes
    rw [State.generation, mutates.rest]
    rfl

/-- After a write to a field every other field reads as before, and the field has the value if the
write was effective. -/
theorem field?_set (consistent : k.toState.Consistent) (order : EdgeOrder κ) (node : NodeId)
    (field : String) (value : Value) :
    (∀ node' field', (node', field') ≠ (node, field) →
      ((Command.set node field value).perform order k).2.field? node' field' =
        k.field? node' field') ∧
    (((Command.set node field value).perform order k).1 = .ok true →
      ((Command.set node field value).perform order k).2.field? node field =
        .ok (some value)) := by
  have settled := settles (c := .set node field value) consistent order rfl
  generalize (Command.set node field value).perform order k = result at settled
  cases changes : (Command.set node field value).change? result.1 with
  | none =>
    rw [settled.idle changes]
    refine ⟨fun _ _ _ => rfl, fun done => ?_⟩
    rw [done] at changes
    cases changes
  | some change =>
    obtain ⟨slot, asked, mutates⟩ := settled.change _ _ changes
    obtain ⟨before, was, asked⟩ := Option.bind_eq_some_iff.mp asked
    obtain ⟨fields, here, now, _⟩ := Command.set_requested asked
    have after (name : String) : result.2.field? node name =
        .ok (fields.insert field value)[name]? :=
      field?_eq_ok.mpr ⟨slot, _, mutates.slot?_self, now, rfl⟩
    refine ⟨fun node' field' ne => ?_, fun _ => ?_⟩
    · by_cases same : node = node'
      · subst same
        have other : field ≠ field' := fun eq => ne (by rw [eq])
        rw [after, field?_eq_ok.mpr ⟨before, fields, was, here, rfl⟩]
        simp [Std.ExtTreeMap.getElem?_insert, other]
      · exact field?_congr (mutates.slot?_other same) field'
    · rw [after]
      simp

/-- Two mutations that are apart do not notice each other. -/
theorem answerAlike_after (consistent : k.toState.Consistent) (order order' order'' : EdgeOrder κ)
    (apart : c.Apart c') : AnswerAlike order order' c' k (c.perform order'' k).2 := by
  cases apart with
  | nodes on on' ne =>
    have settled := settles consistent order'' on
    exact answerAlike order order' on' (settled.slot?_other ne) settled.generation
  | @fields node field field' value value' ne =>
    have settled := settles (c := .set node field value) consistent order'' rfl
    have kept := (field?_set consistent order'' node field value).1 node field'
      fun same => ne (Prod.mk.inj same).2.symm
    exact answerAlike_set order order' value' kept settled.generation

/-- What two mutations that are apart ask for, in either order. -/
theorem requested_after {node' : NodeId} {first second last last' : Slot} {change change' : Change}
    {s t t' : State κ} (apart : c.Apart c') (on : c.mutates? = some node)
    (on' : c'.mutates? = some node') (asked : (s.slot? node).bind c.requested = some first)
    (mutates : s.Mutates node change first t)
    (asked' : (t.slot? node').bind c'.requested = some last')
    (other : (s.slot? node').bind c'.requested = some second)
    (mutates' : s.Mutates node' change' second t')
    (other' : (t'.slot? node).bind c.requested = some last) :
    node ≠ node' ∧ first = last ∧ second = last' ∨ node = node' ∧ last' = last := by
  cases apart with
  | nodes here here' ne =>
    cases on.symm.trans here
    cases on'.symm.trans here'
    rw [mutates.slot?_other ne, other] at asked'
    rw [mutates'.slot?_other ne.symm, asked] at other'
    exact .inl ⟨ne, Option.some.inj other', Option.some.inj asked'⟩
  | fields n value value' ne =>
    cases on
    cases on'
    rw [mutates.slot?_self, Option.bind_some] at asked'
    rw [mutates'.slot?_self, Option.bind_some] at other'
    cases before : s.slot? node with
    | none => simp [before] at asked
    | some slot =>
      rw [before, Option.bind_some] at asked other
      have both := Command.requested_set_comm (κ := κ) node ne value value' slot
      rw [asked, other, Option.bind_some, Option.bind_some, asked', other'] at both
      exact .inr ⟨rfl, Option.some.inj both⟩

/-- A command leaves a consistent state. -/
theorem consistent_perform (consistent : k.toState.Consistent) (order : EdgeOrder κ)
    (c : Command κ) : (c.perform order k).2.toState.Consistent := by
  have effect : k.Effect _ (c.perform order k).2 := perform_effect consistent c
  exact effect.consistent consistent

/-- Two mutations that are apart lead to the same state in either order. -/
theorem toState_commute (consistent : k.toState.Consistent) (order order' : EdgeOrder κ)
    (apart : c.Apart c') :
    (c'.perform order (c.perform order k).2).2.toState =
      (c.perform order' (c'.perform order' k).2).2.toState := by
  obtain ⟨node, on⟩ := apart.exists_mutates
  obtain ⟨node', on'⟩ := apart.symm.exists_mutates
  have first := settles consistent order on
  have second := settles consistent order' on'
  have third := settles (consistent_perform consistent order c) order on'
  have fourth := settles (consistent_perform consistent order' c') order' on
  have reply := (answerAlike_after consistent order' order order apart).reply
  have reply' := (answerAlike_after consistent order order' order' apart.symm).reply
  generalize c.perform order k = one at *
  generalize c'.perform order' k = two at *
  generalize c'.perform order one.2 = both at *
  generalize c.perform order' two.2 = both' at *
  cases change : c.change? one.1 with
  | none =>
    have still : one.2 = k := first.idle change
    have still' : both'.2 = two.2 := fourth.idle (reply' ▸ change)
    rw [still']
    cases change' : c'.change? two.1 with
    | none => rw [third.idle (reply ▸ change'), second.idle change', still]
    | some at' =>
      obtain ⟨_, asked, mutates⟩ := second.change _ _ change'
      obtain ⟨_, asked', mutates'⟩ := third.change _ _ (reply ▸ change')
      rw [still] at asked' mutates'
      cases asked.symm.trans asked'
      exact mutates'.unique mutates
  | some at' =>
    obtain ⟨_, asked, mutates⟩ := first.change _ _ change
    obtain ⟨_, asked', mutates'⟩ := fourth.change _ _ (reply' ▸ change)
    cases change' : c'.change? two.1 with
    | none =>
      have still : two.2 = k := second.idle change'
      have still' : both.2 = one.2 := third.idle (reply ▸ change')
      rw [still] at asked' mutates'
      cases asked.symm.trans asked'
      rw [still']
      exact mutates.unique mutates'
    | some at'' =>
      obtain ⟨_, other, alone⟩ := second.change _ _ change'
      obtain ⟨_, other', last⟩ := third.change _ _ (reply ▸ change')
      exact mutates.comm last alone mutates'
        (requested_after apart on on' asked mutates other' other alone asked')

/-- A write of what is read is idle. -/
theorem set_idle {field : String} {value : Value} {old : Option Value}
    (found : k.field? node field = .ok old) (there : (old.getD .null).same value = true)
    (order : EdgeOrder κ) : (Command.set node field value).perform order k = (.ok false, k) := by
  have idle : (Command.set node field value).attempt order k = .ok (false, k) := by
    rcases set_cases k order node field value with ⟨_, other, _⟩ | ⟨_, _, _, idle⟩ |
      ⟨_, _, same, fresh, _, _⟩
    · cases found.symm.trans other
    · exact idle
    · cases found.symm.trans same
      cases there.symm.trans fresh
  rw [Command.perform_of_ok idle]

/-- What is found in a field after a write that was not refused. -/
theorem exists_field?_set (consistent : k.toState.Consistent) {field : String} {value : Value}
    {b : Bool} (done : (Command.set node field value).perform order k = (.ok b, k')) :
    ∃ found, k'.field? node field = .ok found ∧ (b = true → found = some value) ∧
      (¬ value.IsNaN → (found.getD .null).same value = true) := by
  rcases set_cases k order node field value with ⟨_, _, refused⟩ | ⟨old, found, there, idle⟩ |
    ⟨_, m, _, _, effective, _⟩
  · cases (Command.perform_of_error (c := .set node field value) refused).symm.trans done
  · cases (Command.perform_of_ok (c := .set node field value) idle).symm.trans done
    exact ⟨old, found, fun no => (nomatch no), fun _ => there⟩
  · cases (Command.perform_of_ok (c := .set node field value) effective).symm.trans done
    have now := (field?_set consistent order node field value).2 (by rw [done])
    rw [done] at now
    exact ⟨_, now, fun _ => rfl, Value.same_self_iff.mpr⟩

/-- The same was announced and recorded in another order. -/
structure RecordsPerm (k k' : Kernel κ) : Prop where
  /-- All announcements. -/
  told : k.told.Perm k'.told
  /-- The sink in use. -/
  sink : k.tracer.sink = k'.tracer.sink
  /-- The number of recordings. -/
  size : k.tracer.recordings.size = k'.tracer.recordings.size
  /-- What is in each of them. -/
  events : ∀ i, (k.tracer.events i).Perm (k'.tracer.events i)

/-- Announcements in either order. -/
theorem Announces.swap {m m' u u' : Kernel κ} {events events' : List TraceEvent}
    (first : k.Announces events m) (second : m.Announces events' u)
    (first' : k.Announces events' m') (second' : m'.Announces events u') : u.RecordsPerm u' := by
  have one := first.trans second
  have two := first'.trans second'
  have swapped : (events ++ events').Perm (events' ++ events) := List.perm_append_comm
  refine ⟨?_, ?_, ?_, fun i => ?_⟩
  · rw [one.told, two.told]
    exact swapped.append_left _
  · rw [one.tracer, two.tracer, Tracer.sink_foldl_record, Tracer.sink_foldl_record]
  · rw [one.tracer, two.tracer, Tracer.size_foldl_record, Tracer.size_foldl_record]
  · rw [one.tracer, two.tracer, Tracer.events_foldl_record, Tracer.events_foldl_record]
    refine List.Perm.append_left _ ?_
    unfold Tracer.share
    split
    · exact swapped
    · rfl

/-- In every reachable kernel a field that was written reads as what was written, a NaN apart, which
is never the same as what is read. Every other field of every node reads as before, and to write
the same once more is answered with no and leaves the whole kernel as it is, records included. Two
mutations that are apart are answered in the same way in either order and lead to the same state,
and what they announce is the same but for the order. Sets of subscriptions can be walked in any
order on either way. -/
theorem store_algebra (h : k.Reachable) (order order' : EdgeOrder κ) :
    (∀ node field value b k', (Command.set node field value).perform order k = (.ok b, k') →
      (∃ found, k'.get node field = .ok found ∧ (b = true → found = value) ∧
        (¬ value.IsNaN → found.same value = true)) ∧
      (∀ node' field', (node', field') ≠ (node, field) →
        k'.field? node' field' = k.field? node' field') ∧
      (¬ value.IsNaN → (Command.set node field value).perform order' k' = (.ok false, k'))) ∧
    ∀ c c' : Command κ, c.Apart c' →
      let one := c.perform order k
      let two := c'.perform order one.2
      let one' := c'.perform order' k
      let two' := c.perform order' one'.2
      two'.1 = one.1 ∧ two.1 = one'.1 ∧ two.2.toState = two'.2.toState ∧
        two.2.RecordsPerm two'.2 := by
  refine ⟨fun node field value b k' done => ?_, fun c c' apart => ?_⟩
  · obtain ⟨found, reads, effective, same⟩ := exists_field?_set h.consistent done
    have others := (field?_set h.consistent order node field value).1
    rw [done] at others
    refine ⟨⟨found.getD .null, ?_, fun yes => ?_, same⟩, others, fun plain => ?_⟩
    · rw [State.get, reads]
      rfl
    · rw [effective yes]
      rfl
    · exact set_idle reads (same plain) order'
  · obtain ⟨reply, _, alone, after⟩ := answerAlike_after h.consistent order' order order apart
    obtain ⟨reply', _, alone', after'⟩ :=
      answerAlike_after h.consistent order order' order' apart.symm
    exact ⟨reply', reply, toState_commute h.consistent order order' apart,
      alone'.swap after alone after'⟩

/-- A write to a field of an owned record and one to a field of its owner, in either order. -/
theorem store_algebra_watched :
    let write : Command Unit := .set (.datum ⟨0⟩) "x" (.int 1)
    let write' : Command Unit := .set (.closure ⟨0⟩) "x" (.int 2)
    watched.Reachable ∧ write.Apart write' ∧
    (write'.perform .ascending (write.perform .ascending watched).2).2.toState =
      (write.perform .ascending (write'.perform .ascending watched).2).2.toState ∧
    (write.perform .ascending watched).1 = .ok true ∧
    (write.perform .ascending watched).2.get (.datum ⟨0⟩) "x" = .ok (.int 1) ∧
    write.perform .ascending (write.perform .ascending watched).2 =
      (.ok false, (write.perform .ascending watched).2) := by
  intro write write'
  have reachable : watched.Reachable := reachable_performAll _ _ _ _
  have apart : write.Apart write' := .nodes rfl rfl (by decide)
  have done : (write.perform .ascending watched).1 = .ok true := rfl
  obtain ⟨reads, commute⟩ := store_algebra reachable .ascending .ascending
  obtain ⟨⟨found, got, same, _⟩, _, again⟩ := reads _ _ _ _ _ (Prod.ext done rfl)
  rw [same rfl] at got
  obtain ⟨_, _, state, _⟩ := commute write write' apart
  have plain : ¬ (Value.int 1).IsNaN := by simp [Value.IsNaN]
  exact ⟨reachable, apart, state, done, got, again plain⟩

end Kernel

end ReactiveKernel
