import ReactiveKernel.Proofs.Effect.Issuance
import ReactiveKernel.Proofs.State.Tree

/-!
# Ownership and identities

The parents and the lists of children say the same, and so do the owners and the lists of owned
datums. Every closure is below a root. Identities have the parity of their family, come from the
counters, and are never given out twice, so what was destroyed never comes back.
-/

namespace ReactiveKernel

variable {κ : Type}

namespace State

/-- A closure is the owner of a datum. -/
def IsOwner (s : State κ) (d : DatumId) (c : ClosureId) : Prop :=
  ∃ y, s.datums[d]? = some y ∧ y.owner = some c

/-- The links of the tree of closures agree, are in order, and lead to the roots. -/
structure Rooted (s : State κ) : Prop where
  /-- A closure is the parent of exactly those that it lists. -/
  parent : ∀ b c, s.IsParent b c ↔ ∃ x, s.closures[c]? = some x ∧ b ∈ x.children
  /-- A closure is the owner of exactly those that it lists. -/
  owner : ∀ d c, s.IsOwner d c ↔ ∃ x, s.closures[c]? = some x ∧ d ∈ x.owned
  /-- A child is listed once and by nobody else. -/
  child_once : ∀ (c : ClosureId) (x : Closure), s.closures[c]? = some x → ∀ b ∈ x.children,
    x.children.count b = 1 ∧
      ∀ (a : ClosureId) (z : Closure), s.closures[a]? = some z → b ∈ z.children → a = c
  /-- An owned datum is listed once and by nobody else. -/
  owned_once : ∀ (c : ClosureId) (x : Closure), s.closures[c]? = some x → ∀ d ∈ x.owned,
    x.owned.count d = 1 ∧
      ∀ (a : ClosureId) (z : Closure), s.closures[a]? = some z → d ∈ z.owned → a = c
  /-- Lists are strictly ascending. -/
  ascending : ∀ (c : ClosureId) (x : Closure), s.closures[c]? = some x →
    (x.children.map ClosureId.raw).Pairwise (· < ·) ∧ (x.owned.map DatumId.raw).Pairwise (· < ·)
  /-- A parent has the smaller number. -/
  older : ∀ b c, s.IsParent b c → c.raw < b.raw
  /-- Going up ends after finitely many steps. -/
  finite : WellFounded fun c b => s.IsParent b c
  /-- Going up from a closure leads to a root. -/
  root : ∀ c ∈ s.closures, ∃ r ∈ s.roots, s.Descends c r

/-- The identities in use have the parity of their family and were given out. -/
structure Numbered (s : State κ) : Prop where
  /-- Datums are even. -/
  datums : ∀ d ∈ s.datums, d.raw % 2 = 0 ∧ d.raw < s.nextDatum.raw
  /-- Closures are odd. -/
  closures : ∀ c ∈ s.closures, c.raw % 2 = 1 ∧ c.raw < s.nextClosure.raw
  /-- Registered and pending subscriptions were given out. -/
  subscriptions : ∀ id, id ∈ s.edges.subscriptions ∨ id ∈ s.schedule.pending →
    id.raw < s.nextSubscription.raw

variable {s : State κ}

/-- What stands in an ascending list stands there once. -/
theorem count_eq_one {α : Type} [DecidableEq α] {f : α → Nat} {l : List α}
    (ascend : l.Pairwise fun a b => f a < f b) {a : α} (ha : a ∈ l) : l.count a = 1 := by
  refine List.count_eq_one_of_mem (ascend.imp ?_) ha
  rintro a b lt rfl
  exact Nat.lt_irrefl _ lt

/-- Nobody has two owners. -/
theorem isOwner_unique {d : DatumId} {c c' : ClosureId} (owner : s.IsOwner d c)
    (owner' : s.IsOwner d c') : c = c' := by
  obtain ⟨y, hy, owned⟩ := owner
  obtain ⟨y', hy', owned'⟩ := owner'
  rw [hy] at hy'
  cases hy'
  rw [owned] at owned'
  exact Option.some.inj owned'

/-- The parent of a closure is the live closure that has it among its children. -/
theorem Forest.isParent_iff (forest : s.Forest) (b c : ClosureId) :
    s.IsParent b c ↔ ∃ x, s.closures[c]? = some x ∧ b ∈ x.children := by
  constructor
  · rintro ⟨y, hy, parent⟩
    exact forest.complete.parent b y hy c parent
  · rintro ⟨x, hx, listed⟩
    exact (forest.sound.children c x hx b listed).2

/-- The owner of a datum is the live closure that has it among what it owns. -/
theorem Forest.isOwner_iff (forest : s.Forest) (d : DatumId) (c : ClosureId) :
    s.IsOwner d c ↔ ∃ x, s.closures[c]? = some x ∧ d ∈ x.owned := by
  constructor
  · rintro ⟨y, hy, owner⟩
    exact forest.complete.owner d y hy c owner
  · rintro ⟨x, hx, listed⟩
    exact forest.sound.owned c x hx d listed

/-- Lists in order of age are in order of the numbers. -/
theorem ListsAscend.raw (ascend : s.ListsAscend) {c : ClosureId} {x : Closure}
    (hx : s.closures[c]? = some x) :
    (x.children.map ClosureId.raw).Pairwise (· < ·) ∧
      (x.owned.map DatumId.raw).Pairwise (· < ·) := by
  rw [List.pairwise_map, List.pairwise_map]
  constructor
  · refine (ascend.children c x hx).imp fun {a b} lt => ?_
    simp only [ClosureId.raw]
    omega
  · refine (ascend.owned c x hx).imp fun {a b} lt => ?_
    simp only [DatumId.raw]
    omega

/-- Going up, closures get older, so going up ends. -/
theorem Forest.wellFounded (forest : s.Forest) : WellFounded fun c b => s.IsParent b c :=
  Subrelation.wf (fun up => (forest.older up).2)
    (InvImage.wf ClosureId.index Nat.lt_wfRel.wf)

/-- In a forest the links of the tree of closures agree, are in order, and lead to the roots. -/
theorem Forest.rooted (forest : s.Forest) : s.Rooted where
  parent := forest.isParent_iff
  owner := forest.isOwner_iff
  child_once c x hx b hb := by
    have up := (forest.isParent_iff b c).mpr ⟨x, hx, hb⟩
    refine ⟨count_eq_one (forest.ascend.children c x hx) hb, fun a z hz listed => ?_⟩
    exact isParent_unique ((forest.isParent_iff b a).mpr ⟨z, hz, listed⟩) up
  owned_once c x hx d hd := by
    have owner := (forest.isOwner_iff d c).mpr ⟨x, hx, hd⟩
    refine ⟨count_eq_one (forest.ascend.owned c x hx) hd, fun a z hz listed => ?_⟩
    exact isOwner_unique ((forest.isOwner_iff d a).mpr ⟨z, hz, listed⟩) owner
  ascending c x hx := forest.ascend.raw hx
  older b c up := by
    have lt := (forest.older up).2
    simp only [ClosureId.raw]
    omega
  finite := forest.wellFounded
  root c live := forest.exists_root live

/-- Identities in use were given out, each with the parity of its family. -/
theorem Issued.numbered (issued : s.Issued) : s.Numbered := by
  refine ⟨?_, ?_, ?_⟩
  · intro d live
    have lt : d.index < s.counters.datums := issued.given (i := .datum d) live
    simp only [DatumId.raw, nextDatum]
    omega
  · intro c live
    have lt : c.index < s.counters.closures := issued.given (i := .closure c) live
    simp only [ClosureId.raw, nextClosure]
    omega
  · rintro id (registered | pending)
    · exact issued.given (i := .subscription id) registered
    · exact issued.pending id pending

end State

namespace Kernel

/-- In a reachable kernel the links of the tree agree and lead to the roots, the identities in use
are those of their family, and no identity was given out twice; whatever happens later, none is
given out again, and none that is gone comes back. -/
theorem ownership_and_identity {k : Kernel κ} (h : k.Reachable) :
    k.toState.Rooted ∧ k.toState.Numbered ∧
    k.made.Nodup ∧ (∀ i, i ∈ k.made ↔ k.toState.Given i) ∧
    (∀ i, k.toState.Live i → i ∈ k.made) ∧
    ∀ k', k.Precedes k' → k'.made.Nodup ∧ k.made <+: k'.made ∧
      ∀ i ∈ k.made, ¬ k.toState.Live i → ¬ k'.toState.Live i := by
  obtain ⟨⟨_, forest, issued⟩, nodup, given⟩ := h.accounted
  refine ⟨forest.rooted, issued.numbered, nodup, given, ?_, ?_⟩
  · intro i live
    exact (given i).mpr (issued.given live)
  · intro k' later
    refine ⟨later.reachable.accounted.nodup, later.made, ?_⟩
    intro i old dead
    exact later.evolves.dead ((given i).mp old) dead

/-- The commands that make a closure with a child and destroy the child. -/
def bereaved : List (Command Unit) :=
  [.createClosure "Root" none, .createClosure "Child" (some ⟨0⟩), .destroyClosure ⟨1⟩]

/-- A closure that is made later is not the one that was destroyed. -/
theorem ownership_and_identity_bereaved :
    let k := (Kernel.create .standard .empty).performAll .ascending bereaved
    let k' := (Kernel.create .standard .empty).performAll .ascending
      (bereaved ++ [.createClosure "Later" (some ⟨0⟩)])
    k.Reachable ∧ k.Precedes k' ∧ .closure ⟨1⟩ ∈ k.made ∧ ¬ k.toState.Live (.closure ⟨1⟩) ∧
      ¬ k'.toState.Live (.closure ⟨1⟩) := by
  intro k k'
  have reachable : k.Reachable := reachable_performAll _ _ _ _
  have later : k.Precedes k' := precedes_performAll _ _ _ _ _
  obtain ⟨_, _, _, _, _, future⟩ := ownership_and_identity reachable
  obtain ⟨_, _, gone⟩ := future k' later
  have old : .closure ⟨1⟩ ∈ k.made := by decide
  have dead : ¬ k.toState.Live (.closure ⟨1⟩) := show ⟨1⟩ ∉ k.closures by decide
  exact ⟨reachable, later, old, dead, gone _ old dead⟩

end Kernel

end ReactiveKernel
