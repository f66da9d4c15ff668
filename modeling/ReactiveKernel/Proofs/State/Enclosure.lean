import ReactiveKernel.Proofs.State.Rollback

/-!
# What is new is below one closure

Of a state that came from an earlier one, everything new may be enclosed in the subtree of one
closure: without that subtree the nodes and subscriptions are those of the earlier state. Making
nodes below the closure, subscriptions that touch its subtree, and changing or removing nodes of the
subtree leaves everything enclosed. When the closure is gone, all is as it was.
-/

namespace ReactiveKernel

variable {κ : Type}

namespace State

/-- Compared with an earlier state, everything new is below one closure. -/
structure Encloses (s₀ s : State κ) (c : ClosureId) : Prop where
  /-- Without what is below the closure, the tables are those of the earlier state. -/
  outside : s₀.SameTables (s.without (s.Below c))
  /-- Closures that are not older are below it. -/
  inside : ∀ b ∈ s.closures, c.index ≤ b.index → s.Below c (.closure b)

variable {s₀ s t : State κ} {c : ClosureId} {gone : NodeId → Prop} {lost : SubscriptionId → Prop}

/-- Dropping subscriptions that touch a set of nodes does not matter when these are taken out. -/
theorem without_dropEdges (covered : ∀ id, lost id → s.Touches gone id) :
    (s.dropEdges lost).without gone = s.without gone := by
  have touches : (fun id => lost id ∨ (s.dropEdges lost).Touches gone id) = s.Touches gone := by
    funext id
    refine propext ⟨?_, fun h => ?_⟩
    · rintro (h | ⟨e, he, h⟩)
      · exact covered id h
      · exact ⟨e, ((EdgeTable.subscriptions_without_eq_some s.edges).mp he).2, h⟩
    · by_cases dropped : lost id
      · exact .inl dropped
      · obtain ⟨e, he, h⟩ := h
        exact .inr ⟨e, (EdgeTable.subscriptions_without_eq_some s.edges).mpr ⟨dropped, he⟩, h⟩
  rw [without, dropEdges_dropEdges, touches]
  rfl

/-- What is below the closure when new nodes are taken out again is below it. -/
theorem below_of_undone (undone : s.SameTables (t.without gone)) (cascades : t.Cascades gone)
    {node : NodeId} (below : s.Below c node) : gone node ∨ t.Below c node := by
  rw [← undone.below] at below
  exact (below_without cascades c node).mp (.inr below)

namespace Encloses

/-- A state in which nothing is new encloses it. -/
theorem refl (consistent : s.Consistent) : s.Encloses s s.nextClosure := by
  have dead : ∀ node, ¬ s.Below s.nextClosure node := by
    intro node below
    obtain ⟨x, hx⟩ := below.top_live
    rw [consistent.issued.nextClosure_dead] at hx
    cases hx
  refine ⟨.of_eq ?_, fun b live new => ?_⟩
  · rw [without_dead consistent.indexed consistent.forest.sound fun node _ => dead node]
  · obtain ⟨x, hx⟩ := exists_closure live
    exact absurd (consistent.issued.closures b x hx) (Nat.not_lt.mpr new)

/-- When the closure is gone, nothing is new. -/
theorem of_dead (h : s₀.Encloses s c) (consistent : s.Consistent) (dead : c ∉ s.closures) :
    s₀.SameTables s := by
  have nothing : ∀ node, s.contains node = true → ¬ s.Below c node := by
    intro node _ below
    obtain ⟨x, hx⟩ := below.top_live
    exact dead (mem_closures hx)
  have outside := h.outside
  rwa [without_dead consistent.indexed consistent.forest.sound nothing] at outside

/-- Taking out nodes below the closure. -/
theorem shrink (h : s₀.Encloses s c) (cascades : s.Cascades gone)
    (covered : ∀ node, gone node → s.Below c node) : s₀.Encloses (s.without gone) c := by
  have both (node : NodeId) : gone node ∨ (s.without gone).Below c node ↔ s.Below c node := by
    rw [below_without cascades]
    exact ⟨fun h => h.elim (covered node) id, .inr⟩
  refine ⟨?_, fun b live new => ?_⟩
  · have out : (s.without gone).without ((s.without gone).Below c) = s.without (s.Below c) := by
      rw [without_without]
      exact congrArg s.without (funext fun node => propext (both node))
    rw [out]
    exact h.outside
  · obtain ⟨y, hy⟩ := exists_closure live
    obtain ⟨stays, x, hx, _⟩ := closures_without_eq_some.mp hy
    exact ((both (.closure b)).mpr (h.inside b (mem_closures hx) new)).resolve_left stays

/-- Making nodes below the closure, as seen from what is left when they are taken out again. -/
theorem grow (h : s₀.Encloses s c) (undone : s.SameTables (t.without gone))
    (cascades : t.Cascades gone) (covered : ∀ node, gone node → t.Below c node) :
    s₀.Encloses t c := by
  have both (node : NodeId) : gone node ∨ s.Below c node ↔ t.Below c node := by
    rw [← undone.below, below_without cascades]
    exact ⟨fun h => h.elim (covered node) id, .inr⟩
  refine ⟨?_, fun b live new => ?_⟩
  · have out : (t.without gone).without (s.Below c) = t.without (t.Below c) := by
      rw [without_without]
      exact congrArg t.without (funext fun node => propext (both node))
    rw [← out]
    exact h.outside.trans (undone.without _)
  · by_cases made : gone (.closure b)
    · exact covered _ made
    · obtain ⟨x, hx⟩ := exists_closure live
      have old : b ∈ s.closures := by
        rw [← undone.closures]
        exact mem_closures (closures_without_eq_some.mpr ⟨made, x, hx, rfl⟩)
      exact (both _).mp (.inr (h.inside b old new))

/-- Dropping subscriptions that touch what is below the closure. -/
theorem unlink (h : s₀.Encloses s c) (covered : ∀ id, lost id → s.Touches (s.Below c) id) :
    s₀.Encloses (s.dropEdges lost) c := by
  have below := (s.sameTree_dropEdges lost).below c
  refine ⟨?_, fun b live new => ?_⟩
  · rw [below, without_dropEdges covered]
    exact h.outside
  · rw [below]
    obtain ⟨y, hy⟩ := exists_closure live
    obtain ⟨x, hx, _⟩ := (s.sameTree_dropEdges lost).closure hy
    exact h.inside b (mem_closures hx) new

/-- Making subscriptions that touch what is below the closure. -/
theorem link (h : s₀.Encloses s c) (undone : s.SameTables (t.dropEdges lost))
    (covered : ∀ id, lost id → t.Touches (t.Below c) id) : s₀.Encloses t c := by
  have tree := t.sameTree_dropEdges lost
  have below : s.Below c = t.Below c := by rw [← undone.below, tree.below]
  refine ⟨?_, fun b live new => ?_⟩
  · rw [← without_dropEdges covered, ← below]
    exact h.outside.trans (undone.without _)
  · rw [← below]
    obtain ⟨x, hx⟩ := exists_closure live
    obtain ⟨y, hy, _⟩ := tree.symm.closure hx
    exact h.inside b (undone.closures ▸ mem_closures hy) new

/-- Changing records of nodes below the closure. -/
theorem rewrite (h : s₀.Encloses s c) (tree : s.SameTree t) (edges : t.edges = s.edges)
    (datums : ∀ d : DatumId, ¬ s.Below c (.datum d) → t.datums[d]? = s.datums[d]?)
    (closures : ∀ b : ClosureId, ¬ s.Below c (.closure b) → t.closures[b]? = s.closures[b]?) :
    s₀.Encloses t c := by
  have below := tree.below c
  refine ⟨?_, fun b live new => ?_⟩
  · rw [below]
    exact h.outside.trans (sameTables_without edges datums closures)
  · rw [below]
    obtain ⟨y, hy⟩ := exists_closure live
    obtain ⟨x, hx, _⟩ := tree.closure hy
    exact h.inside b (mem_closures hx) new

/-- Changing a closure below the closure, but not its place. -/
theorem updateClosure (h : s₀.Encloses s c) {b : ClosureId} {f : Closure → Closure}
    (inside : b ∈ s.closures → s.Below c (.closure b)) (place : ∀ x, (f x).place = x.place) :
    s₀.Encloses (s.updateClosure b f) c := by
  have closures (a : ClosureId) : (s.updateClosure b f).closures[a]? =
      (s.closures[a]?).map fun x => if b = a then f x else x := by
    rw [updateClosure_eq]
    exact getElem?_modify_eq_map _ _ _ _
  refine h.rewrite ⟨fun d => by rw [updateClosure_eq], fun a => ?_⟩ (by rw [updateClosure_eq])
    (fun d _ => by rw [updateClosure_eq]) fun a outside => ?_
  · rw [closures, Option.map_map]
    refine congrArg (Option.map · _) (funext fun x => ?_)
    simp only [Function.comp_apply]
    split
    · exact place x
    · rfl
  · rw [closures]
    cases hx : s.closures[a]? with
    | none => rfl
    | some x =>
      have other : ¬ b = a := by
        rintro rfl
        exact outside (inside (mem_closures hx))
      simp [other]

/-- Nothing changes in the tables. -/
theorem same (h : s₀.Encloses s c) (tables : s.SameTables t) : s₀.Encloses t c := by
  refine ⟨?_, fun b live new => ?_⟩
  · rw [tables.below]
    exact h.outside.trans (tables.without _)
  · rw [tables.below]
    exact h.inside b (tables.closures ▸ live) new

/-- A new datum whose owner is below the closure. -/
theorem addDatum (h : s₀.Encloses s c) (consistent : s.Consistent) (typeName : String)
    (content : Content) {o : ClosureId} (within : s.Below c (.closure o)) :
    s₀.Encloses (s.addDatum typeName content (some o)) c := by
  obtain ⟨x, hx⟩ := contains_closure.mp (within.live consistent.forest.sound)
  have live : s.HolderLive (some o) := fun _ is => Option.some.inj is ▸ mem_closures hx
  have undone := sameTables_addDatum consistent typeName content live
  have cascades := (s.addDatum typeName content (some o)).cascades_datum s.nextDatum
  refine h.grow undone cascades ?_
  rintro _ rfl
  have owner := (below_of_undone undone cascades within).resolve_left (by simp)
  have record : (s.addDatum typeName content (some o)).closures[o]? =
      some { x with owned := x.owned ++ [s.nextDatum] } := by
    rw [getElem?_closures_addDatum, hx]
    simp
  exact owner.trans (.owned record (by simp))

/-- A new closure takes no other nodes along. -/
theorem cascades_addClosure (s : State κ) (template : String) (parent : Option ClosureId) :
    (s.addClosure template parent).Cascades (· = .closure s.nextClosure) := by
  have record : (s.addClosure template parent).closures[s.nextClosure]? =
      some (.create template parent s.generation) := by
    rw [getElem?_closures_addClosure, if_pos rfl]
  constructor
  · intro b x hx is d hd
    cases is
    rw [record] at hx
    cases hx
    cases hd
  · intro b x hx is d hd
    cases is
    rw [record] at hx
    cases hx
    cases hd

/-- A new closure whose parent is below the closure, or which is that closure. -/
theorem addClosure (h : s₀.Encloses s c) (consistent : s.Consistent) (template : String)
    {parent : Option ClosureId} (live : s.HolderLive parent)
    (within : s.nextClosure = c ∨ ∃ p, parent = some p ∧ s.Below c (.closure p)) :
    s₀.Encloses (s.addClosure template parent) c := by
  have undone := sameTables_addClosure consistent template live
  have cascades := cascades_addClosure s template parent
  have record : (s.addClosure template parent).closures[s.nextClosure]? =
      some (.create template parent s.generation) := by
    rw [getElem?_closures_addClosure, if_pos rfl]
  refine h.grow undone cascades ?_
  rintro _ rfl
  rcases within with rfl | ⟨p, rfl, within⟩
  · exact .self record
  · obtain ⟨x, hx⟩ := exists_closure (live p rfl)
    have new : ¬ p = s.nextClosure := by
      rintro rfl
      rw [consistent.issued.nextClosure_dead] at hx
      cases hx
    have new' : ¬ s.nextClosure = p := fun eq => new eq.symm
    have above := (below_of_undone undone cascades within).resolve_left (by simpa using new)
    have listed : (s.addClosure template (some p)).closures[p]? =
        some { x with children := x.children ++ [s.nextClosure] } := by
      rw [getElem?_closures_addClosure, if_neg new', hx]
      simp
    exact above.trans (.child listed (by simp) (.self record))

/-- A new subscription that starts or ends below the closure. -/
theorem addEdge (h : s₀.Encloses s c) (consistent : s.Consistent) {source target : NodeId}
    (source_live : s.contains source = true) (target_live : s.contains target = true)
    (selector : Selector) (code : κ) (within : s.Below c source ∨ s.Below c target) :
    s₀.Encloses (s.addEdge source target selector code) c := by
  have below := (s.sameTree_addEdge source target selector code).below c
  refine h.link (sameTables_addEdge consistent source_live target_live selector code) ?_
  rintro _ rfl
  refine ⟨⟨source, target, selector, s.nextFunction⟩, ?_, below ▸ within⟩
  rw [getElem?_subscriptions_addEdge, if_pos rfl]

end Encloses

end State

end ReactiveKernel
