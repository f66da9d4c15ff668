import ReactiveKernel.Proofs.Ledger.Basic

/-!
# Orderly journals

In an orderly journal a wave consists of what is due, turns are taken in the order of the wave, a
callback starts if its subscription is registered then, and a wave ends when all turns were taken
or the drain is aborted. All this is said of single entries, each in view of those before it, and
what it means for a whole wave follows.
-/

namespace ReactiveKernel

variable {κ : Type}

/-- An entry may follow some others. -/
def Fits (entries : List (Occurrence κ)) : Occurrence κ → Prop
  | .waveTaken generation wave =>
    (Ledger.of entries).draining = true ∧ (Ledger.of entries).rest = [] ∧
      generation = (Ledger.of entries).generation + 1 ∧
      wave.Pairwise (fun a b => a.raw < b.raw) ∧ ∀ id, id ∈ wave ↔ Due entries id
  | .started n =>
    n.generation = (Ledger.of entries).generation ∧
      (∃ rest, (Ledger.of entries).rest = n.subscription :: rest) ∧
      ∃ e, (Ledger.of entries).registered n.subscription = some e ∧
        n.source = e.source ∧ n.target = e.target
  | .logged (.stale id generation) =>
    generation = (Ledger.of entries).generation ∧
      (∃ rest, (Ledger.of entries).rest = id :: rest) ∧ (Ledger.of entries).registered id = none
  | .logged (.callbackAborted id generation _ _) =>
    generation = (Ledger.of entries).generation ∧ (Ledger.of entries).turn = some id
  | .announced (.generationDrained generation _) =>
    generation = (Ledger.of entries).generation ∧ (Ledger.of entries).rest = []
  | .announced (.drainStarted ..) => (Ledger.of entries).draining = false
  | .announced (.drainFinished ..) =>
    (Ledger.of entries).draining = true ∧ (Ledger.of entries).rest = []
  | _ => True

/-- Every entry fits those before it. -/
inductive Orderly : List (Occurrence κ) → Prop
  /-- Nothing has happened. -/
  | nil : Orderly []
  /-- One more entry. -/
  | snoc {entries : List (Occurrence κ)} {o : Occurrence κ} : Orderly entries → Fits entries o →
    Orderly (entries ++ [o])

namespace Orderly

variable {entries more : List (Occurrence κ)} {o : Occurrence κ}

/-- One more entry keeps a journal orderly exactly if it fits those before it. -/
theorem snoc_iff : Orderly (entries ++ [o]) ↔ Orderly entries ∧ Fits entries o := by
  constructor
  · intro h
    generalize eq : entries ++ [o] = all at h
    cases h with
    | nil => exact absurd eq (by simp)
    | snoc orderly fits =>
      obtain ⟨rfl, same⟩ := List.append_inj' eq rfl
      cases same
      exact ⟨orderly, fits⟩
  · rintro ⟨orderly, fits⟩
    exact .snoc orderly fits

/-- The beginning of an orderly journal is orderly. -/
theorem of_append (h : Orderly (entries ++ more)) : Orderly entries := by
  induction more using List.reverseRecOn with
  | nil => rwa [List.append_nil] at h
  | append_singleton more o ih =>
    rw [← List.append_assoc] at h
    exact ih (snoc_iff.mp h).1

/-- Every entry of an orderly journal fits those before it. -/
theorem fits (h : Orderly (entries ++ o :: more)) : Fits entries o := by
  have split : entries ++ o :: more = (entries ++ [o]) ++ more := by simp
  rw [split] at h
  exact (snoc_iff.mp h.of_append).2

end Orderly

end ReactiveKernel
