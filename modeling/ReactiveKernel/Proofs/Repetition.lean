import ReactiveKernel.Proofs.Mutation

/-!
# Asking twice for an availability

A datum that was given an availability has it, and to ask for it again changes nothing. The one
exception is a failed datum whose payload is a NaN: it is to keep its payload, but a NaN is never
the same as what is stored, so that each request counts as a change.
-/

namespace ReactiveKernel

variable {κ : Type}

namespace Value

/-- The value is not the same as itself. -/
def IsNaN (v : Value) : Prop := ∃ x : Binary64, v = .float x ∧ x.isNaN = true

/-- Every other value is the same as itself. -/
theorem same_self_iff {v : Value} : v.same v = true ↔ ¬ v.IsNaN := by
  cases v with
  | float x => simp [same, Binary64.ieeeEq, IsNaN]
  | _ => simp [same, IsNaN]

end Value

namespace Status

variable {s : Status} {a : Availability}

/-- The status is failed with a NaN for a payload. -/
def HoldsNaN (s : Status) : Prop := ∃ v, s.payload = some v ∧ v.IsNaN

/-- A status is the same as itself unless it holds a NaN. -/
theorem same_self_iff : s.same s = true ↔ ¬ s.HoldsNaN := by
  unfold same HoldsNaN
  cases s.payload with
  | none => simp [Value.sameOption]
  | some v => simp [Value.sameOption, Value.same_self_iff]

/-- A status with the availability that it has is itself. -/
theorem withAvailability_self : s.withAvailability s.availability = s := by
  cases s <;> rfl

/-- What has an availability already is the same as what is asked for, but for a NaN. -/
theorem availability_of_same (h : s.same (s.withAvailability a) = true) : s.availability = a := by
  have agree : s.availability = (s.withAvailability a).availability := by
    simp only [same, Bool.and_eq_true, beq_iff_eq] at h
    exact h.1
  cases a <;> exact agree

/-- Only a failed status that is to fail again keeps a NaN. -/
theorem holdsNaN_withAvailability :
    (s.withAvailability a).HoldsNaN ↔ a = .error ∧ s.HoldsNaN := by
  cases a <;> simp [withAvailability, HoldsNaN, payload]

end Status

namespace Kernel

open State

variable {k : Kernel κ} {order : EdgeOrder κ} {d : DatumId} {x : Datum} {a : Availability}

/-- The availability of a live datum is set by an update of its status. -/
theorem setAvailability_of_live (live : k.datums[d]? = some x) :
    k.setAvailability order d a =
      .ok (k.updateStatus order d x (x.status.withAvailability a)) := by
  simp [setAvailability, requireDatum, live, bind, Except.bind, pure, Except.pure]

/-- A request for the availability that a live datum has is idle just if it keeps no NaN. -/
theorem setAvailability_idle_iff (live : k.datums[d]? = some x) (has : x.status.availability = a) :
    (Command.setAvailability d a).perform order k = (.ok false, k) ↔
      ¬ (a = .error ∧ x.status.HoldsNaN) := by
  have keeps : x.status.withAvailability a = x.status := has ▸ Status.withAvailability_self
  have done : (Command.setAvailability d a).attempt order k =
      .ok (k.updateStatus order d x x.status) := keeps ▸ setAvailability_of_live live
  rw [← Status.holdsNaN_withAvailability, keeps, ← Status.same_self_iff]
  cases same : x.status.same x.status with
  | true =>
    have idle : k.updateStatus order d x x.status = (false, k) := by simp [updateStatus, same]
    rw [idle] at done
    rw [Command.perform_of_ok done]
    simp
  | false =>
    obtain ⟨m, effective⟩ : ∃ m, k.updateStatus order d x x.status = (true, m) := by
      simp [updateStatus, same]
    rw [effective] at done
    rw [Command.perform_of_ok done]
    refine iff_of_false (fun eq => ?_) Bool.false_ne_true
    cases (Prod.mk.inj eq).1

/-- A request for an availability is done, and then the datum has it. -/
theorem exists_setAvailability (h : k.Reachable) (order : EdgeOrder κ)
    (live : k.datums[d]? = some x) (a : Availability) :
    ∃ b k' y, (Command.setAvailability d a).perform order k = (.ok b, k') ∧
      k'.datums[d]? = some y ∧ y.status = x.status.withAvailability a := by
  have slot : k.toState.slot? (.datum d) = some (.datum x.content x.status) := slot_datum live rfl
  have requested : (Command.setAvailability d a : Command κ).requested
      (.datum x.content x.status) =
        some (.datum x.content (x.status.withAvailability a)) := by
    cases a <;> rfl
  have mutation : k.Mutation _ (.datum d) ((Command.setAvailability d a).perform order k) :=
    perform_mutation h.consistent rfl
  generalize (Command.setAvailability d a).perform order k = result at mutation
  cases mutation with
  | refused fault cannot => simp [slot, requested] at cannot
  | idle reply was asked there quiet =>
    obtain rfl := Option.some.inj (slot.symm.trans was)
    have has : x.status.availability = a := Status.availability_of_same there
    exact ⟨reply, k, x, rfl, live, by rw [← has, Status.withAvailability_self]⟩
  | effective reply was asked fresh changes answers mutates =>
    obtain rfl := Option.some.inj (slot.symm.trans was)
    obtain rfl := Option.some.inj (requested.symm.trans asked)
    obtain ⟨y, content, status, _, same, now⟩ := mutates.datum d rfl
    cases same
    exact ⟨reply, _, _, rfl, now, rfl⟩

/-- A request for an availability of a live datum is done and leaves it with that availability, a
failed datum that is to fail again with its payload. The same request once more is answered with no
and leaves the kernel as it is, records included, just if it does not ask a datum to fail again
whose payload is a NaN. So is the first one, if the datum has the availability already. -/
theorem setAvailability_twice (h : k.Reachable) (order order' : EdgeOrder κ)
    (live : k.datums[d]? = some x) (a : Availability) :
    (∃ b k', (Command.setAvailability d a).perform order k = (.ok b, k') ∧
      (k'.datums[d]?).map Datum.status = some (x.status.withAvailability a) ∧
      ((Command.setAvailability d a).perform order' k' = (.ok false, k') ↔
        ¬ (a = .error ∧ x.status.HoldsNaN))) ∧
    (x.status.availability = a →
      ((Command.setAvailability d a).perform order k = (.ok false, k) ↔
        ¬ (a = .error ∧ x.status.HoldsNaN))) := by
  refine ⟨?_, setAvailability_idle_iff live⟩
  obtain ⟨b, k', y, done, live', status⟩ := exists_setAvailability h order live a
  refine ⟨b, k', done, by rw [live', Option.map_some, status], ?_⟩
  have has : y.status.availability = a := by rw [status]; cases a <;> rfl
  rw [setAvailability_idle_iff live' has, status, Status.holdsNaN_withAvailability]
  simp

/-- A datum that failed with a payload. -/
def failedWith (payload : Value) : Kernel Unit :=
  (Kernel.create .standard .empty).performAll .ascending
    [.createDatum "Cell" [] none, .setError ⟨0⟩ payload]

/-- A datum that failed with a text keeps it when it is to fail again, and nothing else happens. -/
theorem setAvailability_twice_text :
    (failedWith (.text "timeout")).Reachable ∧
    ∃ x, (failedWith (.text "timeout")).datums[(⟨0⟩ : DatumId)]? = some x ∧
      x.status = .failed (some (.text "timeout")) ∧
      (Command.setAvailability ⟨0⟩ .error).perform .ascending (failedWith (.text "timeout")) =
        (.ok false, failedWith (.text "timeout")) := by
  have reachable : (failedWith (.text "timeout")).Reachable := reachable_performAll _ _ _ _
  obtain ⟨x, live, status⟩ : ∃ x,
      (failedWith (.text "timeout")).datums[(⟨0⟩ : DatumId)]? = some x ∧
        x.status = .failed (some (.text "timeout")) := ⟨_, rfl, rfl⟩
  have plain : ¬ (Availability.error = .error ∧ x.status.HoldsNaN) := by
    simp [status, Status.HoldsNaN, Status.payload, Value.IsNaN]
  obtain ⟨_, again⟩ := setAvailability_twice reachable .ascending .ascending live .error
  exact ⟨reachable, x, live, status, (again (by rw [status]; rfl)).mpr plain⟩

/-- The positive quiet NaN with an empty fraction. -/
def quietNaN : Binary64 := ⟨0x7ff8000000000000⟩

/-- A datum that failed with a NaN changes each time that it is to fail again. -/
theorem setAvailability_changes_twice :
    let again : Command Unit := .setAvailability ⟨0⟩ .error
    let once := again.perform .ascending (failedWith (.float quietNaN))
    let twice := again.perform .ascending once.2
    (failedWith (.float quietNaN)).Reachable ∧ once.1 = .ok true ∧ twice.1 = .ok true ∧
    (once.2.datums[(⟨0⟩ : DatumId)]?).map (·.revisions) = some ⟨3, 3⟩ ∧
    (twice.2.datums[(⟨0⟩ : DatumId)]?).map (·.revisions) = some ⟨4, 4⟩ ∧
    (twice.2.datums[(⟨0⟩ : DatumId)]?).map (·.status) = some (.failed (some (.float quietNaN))) :=
  ⟨reachable_performAll _ _ _ _, rfl, rfl, rfl, rfl, rfl⟩

end Kernel

end ReactiveKernel
