import ReactiveKernel.Proofs.State.Invariant

/-!
# The tree of closures seen from its roots

A closure without a parent is a root. Parents are older than their children, so going up from
any closure ends at a root, and the subtrees of the roots make up all closures and all datums
that are owned.
-/

namespace ReactiveKernel

variable {κ : Type}

namespace State

variable {s : State κ}

/-- The roots are the live closures without a parent. -/
theorem mem_roots {c : ClosureId} :
    c ∈ s.roots ↔ ∃ x, s.closures[c]? = some x ∧ x.parent = none := by
  simp only [roots, List.mem_map, List.mem_filter, Prod.exists, Option.isNone_iff_eq_none]
  constructor
  · rintro ⟨b, x, ⟨entry, rootless⟩, rfl⟩
    exact ⟨x, Std.ExtTreeMap.mem_toList_iff_getElem?_eq_some.mp entry, rootless⟩
  · rintro ⟨x, entry, rootless⟩
    exact ⟨c, x, ⟨Std.ExtTreeMap.mem_toList_iff_getElem?_eq_some.mpr entry, rootless⟩, rfl⟩

/-- No root is listed twice. -/
theorem nodup_roots (s : State κ) : s.roots.Nodup := by
  rw [roots, List.Nodup, List.pairwise_map]
  refine (s.closures.distinct_keys_toList.filter _).imp ?_
  intro a b other same
  exact other (Std.LawfulEqCmp.compare_eq_iff_eq.mpr same)

/-- A parent is live and older than its child. -/
theorem Forest.older (forest : s.Forest) {b c : ClosureId} (up : s.IsParent b c) :
    c ∈ s.closures ∧ c.index < b.index := by
  obtain ⟨y, hy, parent⟩ := up
  obtain ⟨x, hx, listed⟩ := forest.complete.parent b y hy c parent
  exact ⟨mem_closures hx, (forest.sound.children c x hx b listed).1⟩

/-- Nobody has two parents. -/
theorem isParent_unique {b c c' : ClosureId} (up : s.IsParent b c) (up' : s.IsParent b c') :
    c = c' := by
  obtain ⟨y, hy, parent⟩ := up
  obtain ⟨y', hy', parent'⟩ := up'
  rw [hy] at hy'
  cases hy'
  rw [parent] at parent'
  exact Option.some.inj parent'

/-- Going up from any closure ends at a root. -/
theorem Forest.exists_root (forest : s.Forest) {c : ClosureId} (live : c ∈ s.closures) :
    ∃ r ∈ s.roots, s.Descends c r := by
  induction h : c.index using Nat.strong_induction_on generalizing c with
  | _ n ih =>
    obtain ⟨x, hx⟩ := exists_closure live
    cases hp : x.parent with
    | none => exact ⟨c, mem_roots.mpr ⟨x, hx, hp⟩, .refl⟩
    | some p =>
      have up : s.IsParent c p := ⟨x, hx, hp⟩
      obtain ⟨live', older⟩ := forest.older up
      obtain ⟨r, root, descends⟩ := ih p.index (h ▸ older) live' rfl
      exact ⟨r, root, .head up descends⟩

/-- Going up does not lead beyond a root. -/
theorem eq_of_descends_root {r c : ClosureId} (root : r ∈ s.roots) (h : s.Descends r c) :
    r = c := by
  obtain ⟨x, hx, parentless⟩ := mem_roots.mp root
  rcases Relation.ReflTransGen.cases_head h with eq | ⟨b, ⟨y, hy, parent⟩, _⟩
  · exact eq
  · rw [hx] at hy
    cases hy
    rw [parentless] at parent
    cases parent

/-- A closure that descends from another one is that closure, or its parent descends from it. -/
theorem Descends.parent {b c p : ClosureId} (h : s.Descends b c) (up : s.IsParent b p) :
    b = c ∨ s.Descends p c := by
  rcases Relation.ReflTransGen.cases_head h with eq | ⟨p', up', rest⟩
  · exact .inl eq
  · exact .inr (isParent_unique up up' ▸ rest)

/-- The nodes that belong to the tree: closures, and datums that a closure owns. -/
def InTree (s : State κ) : NodeId → Prop
  | .closure _ => True
  | .datum d => ∃ y o, s.datums[d]? = some y ∧ y.owner = some o

/-- The subtrees of the roots make up the tree. -/
theorem Forest.roots_subtree (forest : s.Forest) {node : NodeId} (live : s.contains node = true) :
    (∃ r ∈ s.roots, s.Subtree r node) ↔ s.InTree node := by
  cases node with
  | closure c =>
    obtain ⟨x, hx⟩ := contains_closure.mp live
    obtain ⟨r, root, descends⟩ := forest.exists_root (mem_closures hx)
    exact ⟨fun _ => trivial, fun _ => ⟨r, root, mem_closures hx, descends⟩⟩
  | datum d =>
    constructor
    · rintro ⟨_, _, y, o, hy, owner, _⟩
      exact ⟨y, o, hy, owner⟩
    · rintro ⟨y, o, hy, owner⟩
      obtain ⟨x, hx, _⟩ := forest.complete.owner d y hy o owner
      obtain ⟨r, root, descends⟩ := forest.exists_root (mem_closures hx)
      exact ⟨r, root, y, o, hy, owner, descends⟩

end State

end ReactiveKernel
