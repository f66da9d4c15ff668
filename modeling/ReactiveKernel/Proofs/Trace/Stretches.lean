import Mathlib.Data.List.Sort
import ReactiveKernel.Canonical

/-!
# Records that differ inside stretches only

Two records have the same canonical form when they differ in the order inside stretches only. This
is kept by whatever comes before and after, and a stretch itself may come in any order.
-/

namespace ReactiveKernel

section

variable {α ρ : Type} [DecidableEq ρ] {mark : α → Option (StretchMark ρ)}

/-- An entry comes behind the smaller entries of its stretch. -/
theorem insertInStretch_of_lt {a b : α} {r : ρ} {m n : Nat} (ha : mark a = some (r, m))
    (hb : mark b = some (r, n)) (lt : n < m) (rest : List α) :
    insertInStretch mark a (b :: rest) = b :: insertInStretch mark a rest := by
  simp only [insertInStretch, ha, hb]
  exact if_pos ⟨trivial, lt⟩

/-- An entry stays in front of everything else. -/
theorem insertInStretch_of_le {a b : α} {r : ρ} {m : Nat} (ha : mark a = some (r, m))
    (high : ∀ n, mark b = some (r, n) → m ≤ n) (rest : List α) :
    insertInStretch mark a (b :: rest) = a :: b :: rest := by
  simp only [insertInStretch, ha]
  cases hb : mark b with
  | none => rfl
  | some other =>
    obtain ⟨r', n⟩ := other
    refine if_neg fun ⟨same, lt⟩ => ?_
    subst same
    exact absurd (high n hb) (Nat.not_le_of_lt lt)

/-- An entry goes behind the first one of a list, or in front of it. -/
theorem insertInStretch_cons (mark : α → Option (StretchMark ρ)) (a b : α) (rest : List α) :
    insertInStretch mark a (b :: rest) = b :: insertInStretch mark a rest ∨
      insertInStretch mark a (b :: rest) = a :: b :: rest := by
  simp only [insertInStretch]
  split
  · split
    · exact .inl rfl
    · exact .inr rfl
  · exact .inr rfl

/-- Of two events in a stretch, it does not matter which is inserted first, if their numbers differ.
-/
theorem insertInStretch_comm_of_lt {a b : α} {r : ρ} {m n : Nat} (ha : mark a = some (r, m))
    (hb : mark b = some (r, n)) (lt : m < n) (record : List α) :
    insertInStretch mark a (insertInStretch mark b record) =
      insertInStretch mark b (insertInStretch mark a record) := by
  induction record with
  | nil =>
    have behind := insertInStretch_of_lt hb ha lt []
    refine (insertInStretch_of_le ha (fun l hl => ?_) []).trans behind.symm
    obtain ⟨_, rfl⟩ := Prod.mk.inj (Option.some.inj (hb.symm.trans hl))
    exact Nat.le_of_lt lt
  | cons c rest ih =>
    by_cases smaller : ∃ l, mark c = some (r, l) ∧ l < m
    · obtain ⟨l, hc, below⟩ := smaller
      rw [insertInStretch_of_lt hb hc (Nat.lt_trans below lt), insertInStretch_of_lt ha hc below,
        insertInStretch_of_lt ha hc below, insertInStretch_of_lt hb hc (Nat.lt_trans below lt), ih]
    · have high : ∀ l, mark c = some (r, l) → m ≤ l := fun l hl =>
        Nat.le_of_not_lt fun below => smaller ⟨l, hl, below⟩
      have higher : ∀ l, mark b = some (r, l) → m ≤ l := fun l hl => by
        obtain ⟨_, rfl⟩ := Prod.mk.inj (Option.some.inj (hb.symm.trans hl))
        exact Nat.le_of_lt lt
      rw [insertInStretch_of_le ha high, insertInStretch_of_lt hb ha lt]
      rcases insertInStretch_cons mark b c rest with behind | front
      · rw [behind, insertInStretch_of_le ha high]
      · rw [front, insertInStretch_of_le ha higher]

variable (tells : ∀ a b s, mark a = some s → mark b = some s → a = b)

include tells

/-- Two entries of one stretch may be put in either order. -/
theorem insertInStretch_comm {a b : α} {r : ρ} {m n : Nat} (ha : mark a = some (r, m))
    (hb : mark b = some (r, n)) (record : List α) :
    insertInStretch mark a (insertInStretch mark b record) =
      insertInStretch mark b (insertInStretch mark a record) := by
  rcases Nat.lt_trichotomy m n with lt | rfl | gt
  · exact insertInStretch_comm_of_lt ha hb lt record
  · rw [tells a b _ ha hb]
  · exact (insertInStretch_comm_of_lt hb ha gt record).symm

/-- An entry that was put into its place in a record comes to the same place in a longer one. -/
theorem foldr_insertInStretch (a : α) (base record : List α) :
    (insertInStretch mark a record).foldr (insertInStretch mark) base =
      insertInStretch mark a (record.foldr (insertInStretch mark) base) := by
  induction record with
  | nil => rfl
  | cons b rest ih =>
    by_cases smaller : ∃ r m n, mark a = some (r, m) ∧ mark b = some (r, n) ∧ n < m
    · obtain ⟨r, m, n, ha, hb, lt⟩ := smaller
      rw [insertInStretch_of_lt ha hb lt, List.foldr_cons, List.foldr_cons, ih,
        insertInStretch_comm tells ha hb]
    · have front : insertInStretch mark a (b :: rest) = a :: b :: rest := by
        cases ha : mark a with
        | none => simp only [insertInStretch, ha]
        | some place =>
          refine insertInStretch_of_le ha (fun n hb => ?_) rest
          exact Nat.le_of_not_lt fun lt => smaller ⟨_, _, _, ha, hb, lt⟩
      rw [front, List.foldr_cons]

/-- Sorting what comes first does not change where it comes to stand. -/
theorem foldr_sortStretches (base record : List α) :
    (sortStretches mark record).foldr (insertInStretch mark) base =
      record.foldr (insertInStretch mark) base := by
  induction record with
  | nil => rfl
  | cons a rest ih =>
    have sorted :
        sortStretches mark (a :: rest) = insertInStretch mark a (sortStretches mark rest) := rfl
    rw [sorted, foldr_insertInStretch tells, ih, List.foldr_cons]

/-- Records with the same canonical form may stand in a row. -/
theorem sortStretches_append {first first' last last' : List α}
    (same : sortStretches mark first = sortStretches mark first')
    (same' : sortStretches mark last = sortStretches mark last') :
    sortStretches mark (first ++ last) = sortStretches mark (first' ++ last') := by
  have row (a b : List α) : sortStretches mark (a ++ b) =
      (sortStretches mark a).foldr (insertInStretch mark) (sortStretches mark b) := by
    rw [foldr_sortStretches tells]
    exact List.foldr_append
  rw [row, row, same, same']

/-- A stretch may come in any order. -/
theorem sortStretches_perm {r : ρ} {stretch stretch' : List α}
    (one : ∀ a ∈ stretch, ∃ n, mark a = some (r, n))
    (perm : stretch.Perm stretch') : sortStretches mark stretch = sortStretches mark stretch' := by
  refine perm.foldr_eq' (fun a ha b hb record => ?_) []
  obtain ⟨m, ha⟩ := one a ha
  obtain ⟨n, hb⟩ := one b hb
  exact insertInStretch_comm tells hb ha record

end

namespace TraceEvent

/-! The canonical form of a record keeps all other events in their places, and sorts every longest
stretch of removals. -/

/-- An event that ends a stretch stays in its place. -/
theorem canonical_cons {e : TraceEvent} (other : e.mark = none) (rest : List TraceEvent) :
    canonical (e :: rest) = e :: canonical rest := by
  unfold canonical sortStretches
  rw [List.foldr_cons]
  cases rest.foldr (insertInStretch mark) [] <;> simp only [insertInStretch, other]

/-- A removal is marked with the number of its subscription. -/
theorem mark_unsubscribed (id : SubscriptionId) : mark (.unsubscribed id) = some ((), id.raw) := rfl

/-- A removal is inserted into a sorted stretch as its subscription is into a sorted list. -/
theorem insert_unsubscribed (id : SubscriptionId) (ids : List SubscriptionId)
    {rest : List TraceEvent} (ends : ∀ e ∈ rest.head?, e.mark = none) :
    insertInStretch mark (.unsubscribed id) (ids.map unsubscribed ++ rest) =
      (ids.orderedInsert (fun a b => a.raw ≤ b.raw) id).map unsubscribed ++ rest := by
  induction ids with
  | nil =>
    cases rest with
    | nil => rfl
    | cons e rest =>
      refine insertInStretch_of_le (mark_unsubscribed id) (fun n marked => ?_) rest
      rw [ends e rfl] at marked
      cases marked
  | cons other ids ih =>
    rw [List.orderedInsert_cons]
    split
    · next le =>
      refine insertInStretch_of_le (mark_unsubscribed id) (fun n marked => ?_) _
      cases marked
      exact le
    · next gt =>
      have behind := insertInStretch_of_lt (mark_unsubscribed id) (mark_unsubscribed other)
        (Nat.lt_of_not_le gt) (ids.map unsubscribed ++ rest)
      exact behind.trans (congrArg _ ih)

/-- A stretch of removals is sorted by subscription, whatever follows it. -/
theorem canonical_stretch (ids : List SubscriptionId) {rest : List TraceEvent}
    (ends : ∀ e ∈ rest.head?, e.mark = none) :
    canonical (ids.map unsubscribed ++ rest) =
      (ids.insertionSort fun a b => a.raw ≤ b.raw).map unsubscribed ++ canonical rest := by
  have later : ∀ e ∈ (canonical rest).head?, e.mark = none := by
    cases rest with
    | nil => simp [canonical, sortStretches]
    | cons e rest =>
      rw [canonical_cons (ends e rfl)]
      simpa using ends
  induction ids with
  | nil => rfl
  | cons id ids ih =>
    have first : canonical ((id :: ids).map unsubscribed ++ rest) =
        insertInStretch mark (.unsubscribed id) (canonical (ids.map unsubscribed ++ rest)) := rfl
    rw [first, ih, insert_unsubscribed id _ later, List.insertionSort_cons]

/-- An event is determined by its mark. -/
theorem eq_of_mark (a b : TraceEvent) (s : StretchMark Unit) (ha : a.mark = some s)
    (hb : b.mark = some s) : a = b := by
  cases a with
  | unsubscribed i =>
    cases b with
    | unsubscribed j =>
      obtain ⟨i⟩ := i
      obtain ⟨j⟩ := j
      cases ha
      cases hb
      rfl
    | _ => cases hb
  | _ => cases ha

/-- Records with the same canonical forms in both parts have the same canonical form. -/
theorem canonical_append {first first' last last' : List TraceEvent}
    (same : canonical first = canonical first') (same' : canonical last = canonical last') :
    canonical (first ++ last) = canonical (first' ++ last') :=
  sortStretches_append eq_of_mark same same'

/-- Subscriptions may be removed in any order. -/
theorem canonical_unsubscribed {ids ids' : List SubscriptionId} (perm : ids.Perm ids') :
    canonical (ids.map unsubscribed) = canonical (ids'.map unsubscribed) := by
  have one : ∀ e ∈ ids.map unsubscribed, ∃ n, mark e = some ((), n) := by
    intro e he
    obtain ⟨id, _, rfl⟩ := List.mem_map.mp he
    exact ⟨id.raw, mark_unsubscribed id⟩
  exact sortStretches_perm eq_of_mark one (perm.map unsubscribed)

end TraceEvent

end ReactiveKernel
