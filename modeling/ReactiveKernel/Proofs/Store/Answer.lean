import ReactiveKernel.Proofs.Network.Write
import ReactiveKernel.Proofs.Twins.Shuffled

/-!
# What a mutation answers and announces

The answer to a mutation and its announcement are decided by what is found before it: by one field
for a write to that field, and by the slot of the node for every mutation. So a mutation that leaves
these as they are goes unnoticed by another one.
-/

namespace ReactiveKernel

variable {κ : Type}

namespace State

variable {s t : State κ} {d : DatumId}

/-- Two states have the same at a datum: neither has it, or both have it with the same content and
the same status. -/
theorem slot?_datum_cases (same : t.slot? (.datum d) = s.slot? (.datum d)) :
    s.datums[d]? = none ∧ t.datums[d]? = none ∨
      ∃ x y, s.datums[d]? = some x ∧ t.datums[d]? = some y ∧ y.content = x.content ∧
        y.status = x.status := by
  simp only [slot?] at same
  cases hs : s.datums[d]? with
  | none =>
    rw [hs] at same
    exact .inl ⟨rfl, Option.map_eq_none_iff.mp same⟩
  | some x =>
    rw [hs] at same
    obtain ⟨y, hy, eq⟩ := Option.map_eq_some_iff.mp same
    exact .inr ⟨x, y, rfl, hy, Slot.datum.inj eq⟩

end State

namespace Kernel

open State

variable {k k' : Kernel κ} {order order' : EdgeOrder κ} {node : NodeId} {d : DatumId}

/-! Delivery announces nothing. -/

/-- The notifications of a change announce nothing. -/
theorem announces_notify (k : Kernel κ) (order : EdgeOrder κ) (source : NodeId)
    (change : Change) : k.Announces [] (k.notify order source change) := by
  have noted : k.Announces [] (k.note (.delivered source change)) :=
    ⟨told_note k _, rfl⟩
  exact noted.trans (announces_notifyAll source change _ _)

/-- The delivery of a change of a datum announces nothing. -/
theorem announces_datumChanged (k : Kernel κ) (order : EdgeOrder κ) (d : DatumId)
    (change : Change) : k.Announces [] (k.datumChanged order d change) := by
  have notified := announces_notify k order (.datum d) change
  simp only [datumChanged]
  split
  · exact notified
  · next owner _ =>
    refine notified.trans ?_
    simp only [carry]
    split
    · exact .refl _
    · exact (Announces.mapState _ _).trans (announces_notify _ order _ _)

/-- A change of the state that is announced and delivered. -/
theorem announces_changed (k : Kernel κ) (order : EdgeOrder κ) (f : State κ → State κ)
    (e : TraceEvent) (d : DatumId) (change : Change) :
    k.Announces [e] (((k.mapState f).emit e).datumChanged order d change) :=
  ((Announces.mapState k f).trans (.emit _ e)).trans (announces_datumChanged _ order d change)

/-- The replacement of items is announced. -/
theorem announces_replaceItems (k : Kernel κ) (order : EdgeOrder κ) (d : DatumId) (x : Datum)
    (items : List Value) :
    k.Announces [.itemsSet d items.length k.generation] (k.replaceItems order d x items) :=
  announces_changed k order _ _ d .items

/-! Writes to a field. -/

/-- A field is announced after it was written. -/
theorem announces_announceField (written : k.Announces [] k') (node : NodeId) (field : String)
    (old new : Value) (now : k'.generation = k.generation) :
    k.Announces [.fieldSet node field old new k.generation]
      (k'.announceField node field old new) := by
  rw [← now]
  exact (written.trans (.emit _ _)).trans (.log _ _)

/-- A write to a field that is found is idle if the field has the value, and is done otherwise. -/
theorem set_cases_of_found {node : NodeId} {field : String} {value : Value} {old : Option Value}
    (found : k.field? node field = .ok old)
    (decided : k.set order node field value =
      if (old.getD .null).same value then .ok (false, k) else .ok (true, k'))
    (tells : k.Announces [.fieldSet node field (old.getD .null) value k.generation] k') :
    (∃ old, k.field? node field = .ok old ∧ (old.getD .null).same value = true ∧
      k.set order node field value = .ok (false, k)) ∨
    ∃ old k', k.field? node field = .ok old ∧ (old.getD .null).same value = false ∧
      k.set order node field value = .ok (true, k') ∧
      k.Announces [.fieldSet node field (old.getD .null) value k.generation] k' := by
  cases same : (old.getD .null).same value with
  | true => exact .inl ⟨old, found, same, by simp [decided, same]⟩
  | false => exact .inr ⟨old, k', found, same, by simp [decided, same], tells⟩

/-- A write to a field is refused as a look at it is. It is idle if the field has the value, and
otherwise it is done and announced. -/
theorem set_cases (k : Kernel κ) (order : EdgeOrder κ) (node : NodeId) (field : String)
    (value : Value) :
    (∃ fault, k.field? node field = .error fault ∧ k.set order node field value = .error fault) ∨
    (∃ old, k.field? node field = .ok old ∧ (old.getD .null).same value = true ∧
      k.set order node field value = .ok (false, k)) ∨
    ∃ old k', k.field? node field = .ok old ∧ (old.getD .null).same value = false ∧
      k.set order node field value = .ok (true, k') ∧
      k.Announces [.fieldSet node field (old.getD .null) value k.generation] k' := by
  cases node with
  | datum d =>
    cases hd : k.datums[d]? with
    | none =>
      exact .inl ⟨.unknownDatum d, by simp [field?, fieldsOf, requireDatum, hd, bind, Except.bind],
        by simp [set, setDatumField, requireDatum, hd, bind, Except.bind]⟩
    | some x =>
      cases holds : x.content with
      | collection items =>
        refine .inl ⟨.shapeMismatch d .record .collection, ?_, ?_⟩
        · simp [field?, fieldsOf, requireDatum, hd, Datum.requireFields, holds, bind, Except.bind]
        · simp [set, setDatumField, requireDatum, hd, Datum.requireFields, holds, bind, Except.bind]
      | record fields =>
        have record : x.requireFields d = .ok fields := by simp [Datum.requireFields, holds]
        have found : k.field? (.datum d) field = .ok fields[field]? := by
          simp [field?, fieldsOf, requireDatum, hd, record, bind, Except.bind, pure, Except.pure]
        have written := Announces.mapState k (·.putDatum d
          ({ x with content := .record (fields.insert field value) }.touch k.generation))
        have announced := announces_announceField written (.datum d) field
          ((fields[field]?).getD .null) value rfl
        refine .inr (set_cases_of_found found ?_
          (announced.trans (announces_datumChanged _ order d (.field field))))
        simp [set, setDatumField, requireDatum, hd, record, bind, Except.bind, pure, Except.pure]
  | closure c =>
    cases hc : k.closures[c]? with
    | none =>
      exact .inl ⟨.unknownClosure c,
        by simp [field?, fieldsOf, requireClosure, hc, bind, Except.bind],
        by simp [set, setClosureField, requireClosure, hc, bind, Except.bind]⟩
    | some x =>
      have found : k.field? (.closure c) field = .ok x.fields[field]? := by
        simp [field?, fieldsOf, requireClosure, hc, bind, Except.bind, pure, Except.pure]
      have written := Announces.mapState k (·.putClosure c
        ({ x with fields := x.fields.insert field value }.touch k.generation))
      have announced := announces_announceField written (.closure c) field
        ((x.fields[field]?).getD .null) value rfl
      refine .inr (set_cases_of_found found ?_
        (announced.trans (announces_notify _ order (.closure c) (.field field))))
      simp [set, setClosureField, requireClosure, hc, bind, Except.bind, pure, Except.pure]

/-! The same mutation of two kernels. -/

/-- Two kernels give the same answer to a command and announce the same. -/
structure AnswerAlike (order order' : EdgeOrder κ) (c : Command κ) (k k' : Kernel κ) : Prop where
  /-- The answers. -/
  reply : (c.perform order' k').1 = (c.perform order k).1
  /-- The announcements. -/
  announces : ∃ events, k.Announces events (c.perform order k).2 ∧
    k'.Announces events (c.perform order' k').2

namespace AnswerAlike

variable {c : Command κ}

/-- Two kernels that refuse a command with the same fault answer alike. -/
theorem of_error {fault : Fault} (h : c.attempt order k = .error fault)
    (h' : c.attempt order' k' = .error fault) : AnswerAlike order order' c k k' := by
  refine ⟨?_, [], ?_, ?_⟩
  · rw [Command.perform_of_error h, Command.perform_of_error h']
  · rw [Command.perform_of_error h]
    exact .refl k
  · rw [Command.perform_of_error h']
    exact .refl k'

/-- Two kernels that do a command with the same answer and the same announcements answer alike. -/
theorem of_ok {reply : c.Reply} {m m' : Kernel κ} {events : List TraceEvent}
    (h : c.attempt order k = .ok (reply, m)) (h' : c.attempt order' k' = .ok (reply, m'))
    (announces : k.Announces events m) (announces' : k'.Announces events m') :
    AnswerAlike order order' c k k' := by
  refine ⟨?_, events, ?_, ?_⟩
  · rw [Command.perform_of_ok h, Command.perform_of_ok h']
  · rw [Command.perform_of_ok h]
    exact announces
  · rw [Command.perform_of_ok h']
    exact announces'

end AnswerAlike

/-- A write to a field depends on the field only. -/
theorem answerAlike_set (order order' : EdgeOrder κ) {field : String} (value : Value)
    (same : k'.field? node field = k.field? node field) (now : k'.generation = k.generation) :
    AnswerAlike order order' (.set node field value) k k' := by
  have first := set_cases k order node field value
  have second := set_cases k' order' node field value
  rw [same, now] at second
  rcases first with ⟨fault, found, refused⟩ | ⟨old, found, there, idle⟩ |
    ⟨old, m, found, fresh, done, announces⟩
  · simp only [found, Except.error.injEq, reduceCtorEq, false_and, exists_false, or_false] at second
    obtain ⟨_, rfl, refused'⟩ := second
    exact .of_error refused refused'
  · simp only [found, Except.ok.injEq, reduceCtorEq, false_and, exists_false, false_or] at second
    rcases second with ⟨_, rfl, _, idle'⟩ | ⟨_, _, rfl, fresh, _⟩
    · exact .of_ok idle idle' (.refl k) (.refl k')
    · cases there.symm.trans fresh
  · simp only [found, Except.ok.injEq, reduceCtorEq, false_and, exists_false, false_or] at second
    rcases second with ⟨_, rfl, there, _⟩ | ⟨_, m', rfl, _, done', announces'⟩
    · cases there.symm.trans fresh
    · exact .of_ok done done' announces announces'

/-- A mutation of the items of a datum follows a plan: from the items there are, it is refused, or
it has an answer and perhaps new items. -/
theorem answerAlike_items {c : Command κ}
    (plan : List Value → Except Fault (c.Reply × Option (List Value)))
    (follows : ∀ (order : EdgeOrder κ) (k : Kernel κ), c.attempt order k =
      k.requireDatum d >>= fun x => x.requireItems d >>= fun items => (plan items).map fun r =>
        (r.1, match r.2 with
          | none => k
          | some items => k.replaceItems order d x items))
    (order order' : EdgeOrder κ) (same : k'.toState.slot? (.datum d) = k.toState.slot? (.datum d))
    (now : k'.generation = k.generation) : AnswerAlike order order' c k k' := by
  have first := follows order k
  have second := follows order' k'
  rcases slot?_datum_cases same with ⟨gone, gone'⟩ | ⟨x, y, hx, hy, content, _⟩
  · simp only [requireDatum, gone, gone', bind, Except.bind] at first second
    exact .of_error first second
  · simp only [requireDatum, hx, hy, Datum.requireItems, content, bind, Except.bind] at first second
    cases holds : x.content with
    | record fields =>
      simp only [holds] at first second
      exact .of_error first second
    | collection items =>
      simp only [holds] at first second
      cases planned : plan items with
      | error fault =>
        simp only [planned, Except.map] at first second
        exact .of_error first second
      | ok r =>
        obtain ⟨reply, new⟩ := r
        simp only [planned, Except.map] at first second
        cases new with
        | none => exact .of_ok first second (.refl k) (.refl k')
        | some items =>
          exact .of_ok first second (announces_replaceItems k order d x items)
            (now ▸ announces_replaceItems k' order' d y items)

/-- A new status is announced. -/
theorem updateStatus_fresh (k : Kernel κ) (order : EdgeOrder κ) (d : DatumId) {x : Datum}
    {status : Status} (fresh : x.status.same status = false) :
    (k.updateStatus order d x status).1 = true ∧
      k.Announces [.availabilitySet d status k.generation]
        (k.updateStatus order d x status).2 := by
  simp only [updateStatus, fresh, Bool.false_eq_true, if_false, true_and]
  exact (((Announces.mapState k _).trans (.emit _ _)).trans (.log _ _)).trans
    (announces_datumChanged _ order d _)

/-- A mutation of the status of a datum gives it a status that depends on the one it had. -/
theorem answerAlike_status {c : Command κ} (reply : Bool → c.Reply) (target : Status → Status)
    (follows : ∀ (order : EdgeOrder κ) (k : Kernel κ), c.attempt order k =
      k.requireDatum d >>= fun x => .ok (reply (k.updateStatus order d x (target x.status)).1,
        (k.updateStatus order d x (target x.status)).2))
    (order order' : EdgeOrder κ) (same : k'.toState.slot? (.datum d) = k.toState.slot? (.datum d))
    (now : k'.generation = k.generation) : AnswerAlike order order' c k k' := by
  have first := follows order k
  have second := follows order' k'
  rcases slot?_datum_cases same with ⟨gone, gone'⟩ | ⟨x, y, hx, hy, _, status⟩
  · simp only [requireDatum, gone, gone', bind, Except.bind] at first second
    exact .of_error first second
  · simp only [requireDatum, hx, hy, status, bind, Except.bind] at first second
    cases there : x.status.same (target x.status) with
    | true =>
      have there' : y.status.same (target x.status) = true := status ▸ there
      simp only [updateStatus, there, there', if_true] at first second
      exact .of_ok first second (.refl k) (.refl k')
    | false =>
      have there' : y.status.same (target x.status) = false := status ▸ there
      obtain ⟨yes, announces⟩ := k.updateStatus_fresh order d there
      obtain ⟨yes', announces'⟩ := k'.updateStatus_fresh order' d there'
      rw [yes] at first
      rw [yes'] at second
      exact .of_ok first second announces (now ▸ announces')

/-- A mutation depends on the slot of its node only. -/
theorem answerAlike (order order' : EdgeOrder κ) {c : Command κ} (on : c.mutates? = some node)
    (same : k'.toState.slot? node = k.toState.slot? node) (now : k'.generation = k.generation) :
    AnswerAlike order order' c k k' := by
  cases c with
  | set n field value =>
    cases on
    exact answerAlike_set order order' value (field?_congr same field) now
  | setItems d items =>
    cases on
    exact answerAlike_items (c := .setItems d items) (fun _ => .ok ((), some items))
      (fun _ _ => rfl) order order' same now
  | setItem d index value =>
    cases on
    refine answerAlike_items (c := .setItem d index value)
      (fun items => items[index]?.elim (.error (.itemIndexOutOfRange d index items.length))
        fun old => .ok (if old.same value then (false, none)
          else (true, some (items.set index value))))
      (fun order k => ?_) order order' same now
    refine congrArg (k.requireDatum d >>= ·) (funext fun x =>
      congrArg (x.requireItems d >>= ·) (funext fun items => ?_))
    cases items[index]? with
    | none => rfl
    | some old =>
      simp only [Option.elim_some]
      cases old.same value <;> rfl
  | pushItem d value =>
    cases on
    exact answerAlike_items (c := .pushItem d value)
      (fun items => .ok ((), some (items ++ [value]))) (fun _ _ => rfl) order order' same now
  | removeItem d index =>
    cases on
    refine answerAlike_items (c := .removeItem d index)
      (fun items => items[index]?.elim (.error (.itemIndexOutOfRange d index items.length))
        fun removed => .ok (removed, some (items.eraseIdx index)))
      (fun order k => ?_) order order' same now
    refine congrArg (k.requireDatum d >>= ·) (funext fun x =>
      congrArg (x.requireItems d >>= ·) (funext fun items => ?_))
    cases items[index]? <;> rfl
  | setAvailability d a =>
    cases on
    exact answerAlike_status id (·.withAvailability a) (fun _ _ => rfl) order order' same now
  | setError d payload =>
    cases on
    exact answerAlike_status id (fun _ => .failed (some payload)) (fun _ _ => rfl) order order' same
      now
  | createDatum _ _ _ | createCollection _ _ _ | createClosure _ _ | subscribe _ _ _ _
  | unsubscribe _ | destroyDatum _ | destroyClosure _ | putEvent _ | register _ _ => cases on

end Kernel

end ReactiveKernel
