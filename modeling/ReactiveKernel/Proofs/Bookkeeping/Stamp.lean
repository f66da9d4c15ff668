import ReactiveKernel.Proofs.Bookkeeping.Posting
import ReactiveKernel.Proofs.Drain.Count

/-!
# Where stamps come from

The generation is the number of waves that were taken. The stamp of a node in the ledger is the
generation at the last entry that says that the node was made or changed, so it is never ahead of
the generation, and until the first change it is that of the creation.
-/

namespace ReactiveKernel

variable {κ : Type}

/-- An event says that a node was made or changed. -/
def TraceEvent.Stamps (e : TraceEvent) (n : NodeId) : Prop :=
  e.changed? = some n ∨ e.made? = some n.identity

/-- An entry announces that a node was made or changed. -/
def Occurrence.Stamps (o : Occurrence κ) (n : NodeId) : Prop :=
  ∃ e, o = .announced e ∧ e.Stamps n

namespace Ledger

variable {l : Ledger} {o : Occurrence κ} {n : NodeId}

/-- Only a wave moves the generation. -/
theorem generation_record (l : Ledger) (o : Occurrence κ) : (l.record o).generation =
    match o.wave? with
    | some (generation, _) => generation
    | none => l.generation := by
  cases o with
  | announced e => cases e <;> rfl
  | logged e => cases e <;> rfl
  | _ => rfl

/-- What is made or changed is stamped with the generation. -/
theorem stamp_record (h : o.Stamps n) : (l.record o).stamp n = some l.generation := by
  obtain ⟨e, rfl, stamps⟩ := h
  rcases stamps with changed | made
  · obtain ⟨⟨node, change⟩, is, rfl⟩ := Option.map_eq_some_iff.mp changed
    rw [record, announce_change is]
    exact Function.update_self ..
  · cases e <;> cases n <;> cases made <;> exact Function.update_self ..

/-- Nothing else is. -/
theorem stamp_record_of_not (h : ¬ o.Stamps n) : (l.record o).stamp n = l.stamp n := by
  have other {node : NodeId} {e : TraceEvent} (is : o = .announced e) (stamps : e.Stamps node) :
      n ≠ node := fun same => h ⟨e, is, same ▸ stamps⟩
  cases o with
  | logged e => cases e <;> rfl
  | announced e =>
    cases e with
    | datumCreated d _ _ => exact Function.update_of_ne (other rfl (.inr rfl)) ..
    | closureCreated c _ _ => exact Function.update_of_ne (other rfl (.inr rfl)) ..
    | fieldSet _ _ _ _ _ | itemsSet _ _ _ | availabilitySet _ _ _ =>
      exact Function.update_of_ne (other rfl (.inl rfl)) ..
    | _ => rfl
  | _ => rfl

/-- A stamp is the generation at the last entry that says that the node was made or changed. -/
theorem stamp_of {entries : List (Occurrence κ)} {g : Nat} (h : (of entries).stamp n = some g) :
    ∃ before o after, entries = before ++ o :: after ∧ o.Stamps n ∧
      (∀ later ∈ after, ¬ later.Stamps n) ∧ g = (of before).generation := by
  induction entries using List.reverseRecOn with
  | nil => cases h
  | append_singleton entries o ih =>
    rw [of_snoc] at h
    by_cases stamps : o.Stamps n
    · rw [stamp_record stamps] at h
      cases h
      exact ⟨entries, o, [], rfl, stamps, by simp, rfl⟩
    · rw [stamp_record_of_not stamps] at h
      obtain ⟨before, o', after, rfl, stamps', last, rfl⟩ := ih h
      refine ⟨before, o', after ++ [o], by simp, stamps', fun later hlater => ?_, rfl⟩
      rcases List.mem_append.mp hlater with old | new
      · exact last later old
      · rw [List.mem_singleton.mp new]
        exact stamps

end Ledger

namespace Orderly

variable {entries more : List (Occurrence κ)}

/-- The generation is the number of waves that were taken. -/
theorem generation_eq (h : Orderly entries) :
    (Ledger.of entries).generation = (taken entries).length := by
  induction h with
  | nil => rfl
  | @snoc entries o orderly fits ih =>
    rw [Ledger.of_snoc, Ledger.generation_record, taken_append, List.length_append, ← ih]
    cases o with
    | waveTaken generation wave => exact fits.2.2.1
    | _ => rfl

/-- No stamp is ahead of the generation. -/
theorem stamp_le (h : Orderly entries) {n : NodeId} {g : Nat}
    (stamp : (Ledger.of entries).stamp n = some g) : g ≤ (Ledger.of entries).generation := by
  obtain ⟨before, o, after, rfl, _, _, rfl⟩ := Ledger.stamp_of stamp
  rw [h.generation_eq, h.of_append.generation_eq, taken_append, List.length_append]
  exact Nat.le_add_right _ _

end Orderly

end ReactiveKernel
