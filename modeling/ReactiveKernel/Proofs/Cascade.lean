import ReactiveKernel.Proofs.Effect.Consistency
import ReactiveKernel.Proofs.State.Tree

/-!
# What destruction takes and what it leaves

Destroying a closure takes its subtree and every subscription that starts or ends there;
destroying a datum takes that datum alone. What survives keeps its record, except that it does
not mention what is gone. Destroying all roots, in any order, takes the whole tree.
-/

namespace ReactiveKernel

variable {κ : Type}

namespace State

/-- The second state is the first one without some nodes. Among these, those in `tops` were in
the lists of nodes that survive. -/
structure Loses (s : State κ) (tops : List NodeId) (gone : NodeId → Prop) (t : State κ) :
    Prop where
  /-- The nodes that are gone are gone, and all others are still live. -/
  nodes : ∀ node, t.contains node = true ↔ s.contains node = true ∧ ¬ gone node
  /-- The subscriptions that are left are those that did not touch a node that is gone. -/
  edges : ∀ (id : SubscriptionId) (e : Subscription), t.edges.subscriptions[id]? = some e ↔
    s.edges.subscriptions[id]? = some e ∧ ¬ gone e.source ∧ ¬ gone e.target
  /-- The functions that are left are the callbacks of the subscriptions that are left. -/
  functions : ∀ (f : FunctionId) (code : κ), t.edges.functions[f]? = some code ↔
    s.edges.functions[f]? = some code ∧
      ∃ (id : SubscriptionId) (e : Subscription),
        t.edges.subscriptions[id]? = some e ∧ e.callback = f
  /-- The index of targets has the subscriptions that are left. -/
  targeting : ∀ d id, id ∈ t.edges.targeting d ↔
    id ∈ s.edges.targeting d ∧ id ∈ t.edges.subscriptions
  /-- A datum that survives keeps everything but the subscriptions that are gone. -/
  datums : ∀ (d : DatumId) (x : Datum), s.datums[d]? = some x → ¬ gone (.datum d) →
    ∃ outgoing, t.datums[d]? = some { x with outgoing } ∧
      ∀ id, id ∈ outgoing ↔ id ∈ x.outgoing ∧ id ∈ t.edges.subscriptions
  /-- A closure that survives keeps everything but the subscriptions that are gone and the tops
  in its lists. -/
  closures : ∀ (c : ClosureId) (x : Closure), s.closures[c]? = some x → ¬ gone (.closure c) →
    ∃ outgoing incoming,
      t.closures[c]? = some { x with
        outgoing, incoming
        owned := x.owned.filter fun d => decide (NodeId.datum d ∉ tops)
        children := x.children.filter fun b => decide (NodeId.closure b ∉ tops) } ∧
      (∀ id, id ∈ outgoing ↔ id ∈ x.outgoing ∧ id ∈ t.edges.subscriptions) ∧
      ∀ id, id ∈ incoming ↔ id ∈ x.incoming ∧ id ∈ t.edges.subscriptions
  /-- Nothing else is different. -/
  rest : t = { s with datums := t.datums, closures := t.closures, edges := t.edges }

variable {s : State κ} {gone : NodeId → Prop}

/-- A subscription survives exactly if neither of its ends is gone. -/
theorem subscriptions_without {id : SubscriptionId} {e : Subscription} :
    (s.without gone).edges.subscriptions[id]? = some e ↔
      s.edges.subscriptions[id]? = some e ∧ ¬ gone e.source ∧ ¬ gone e.target := by
  have entry : (s.without gone).edges.subscriptions[id]? = some e ↔
      ¬ s.Touches gone id ∧ s.edges.subscriptions[id]? = some e :=
    EdgeTable.subscriptions_without_eq_some s.edges
  rw [entry, and_comm]
  refine and_congr_right fun he => ?_
  constructor
  · intro untouched
    exact ⟨fun h => untouched ⟨e, he, .inl h⟩, fun h => untouched ⟨e, he, .inr h⟩⟩
  · rintro ⟨source, target⟩ ⟨e', he', h⟩
    rw [he] at he'
    cases he'
    exact h.elim source target

/-- A registered subscription stays registered exactly if it does not touch what is gone. -/
theorem registered_without {id : SubscriptionId} {e : Subscription}
    (he : s.edges.subscriptions[id]? = some e) :
    id ∈ (s.without gone).edges.subscriptions ↔ ¬ s.Touches gone id := by
  rw [Kernel.mem_subscriptions]
  constructor
  · rintro ⟨_, he'⟩
    exact ((EdgeTable.subscriptions_without_eq_some s.edges).mp he').1
  · intro untouched
    exact ⟨e, (EdgeTable.subscriptions_without_eq_some s.edges).mpr ⟨untouched, he⟩⟩

/-- A callback survives exactly if its subscription does. -/
theorem EdgesIndexed.functions_without (indexed : s.EdgesIndexed) {f : FunctionId} {code : κ} :
    (s.without gone).edges.functions[f]? = some code ↔ s.edges.functions[f]? = some code ∧
      ∃ (id : SubscriptionId) (e : Subscription),
        (s.without gone).edges.subscriptions[id]? = some e ∧ e.callback = f := by
  have entry : (s.without gone).edges.functions[f]? = some code ↔
      ¬ s.edges.Orphans (s.Touches gone) f ∧ s.edges.functions[f]? = some code := by
    change (s.edges.without (s.Touches gone)).functions[f]? = some code ↔ _
    rw [EdgeTable.getElem?_functions_without]
    by_cases orphan : s.edges.Orphans (s.Touches gone) f <;> simp [orphan]
  rw [entry, and_comm]
  refine and_congr_right fun hf => ?_
  have listed : f ∈ s.edges.functions := by
    rw [Std.ExtTreeMap.mem_iff_isSome_getElem?, hf]
    rfl
  obtain ⟨id, e, he, callback⟩ := (indexed.functions f).mp listed
  constructor
  · intro kept
    have untouched : ¬ s.Touches gone id := fun h => kept ⟨id, e, h, he, callback⟩
    exact ⟨id, e, (EdgeTable.subscriptions_without_eq_some s.edges).mpr ⟨untouched, he⟩, callback⟩
  · rintro ⟨id', e', he', callback'⟩ ⟨a, e'', touched, he'', callback''⟩
    obtain ⟨untouched, here⟩ := (EdgeTable.subscriptions_without_eq_some s.edges).mp he'
    have same := indexed.callback_injective a id' e'' e' he'' here (callback''.trans callback'.symm)
    exact untouched (same ▸ touched)

/-- The index by target keeps exactly the subscriptions that survive. -/
theorem EdgesIndexed.targeting_without (indexed : s.EdgesIndexed) {d : DatumId}
    {id : SubscriptionId} : id ∈ (s.without gone).edges.targeting d ↔
      id ∈ s.edges.targeting d ∧ id ∈ (s.without gone).edges.subscriptions := by
  have entry : id ∈ (s.without gone).edges.targeting d ↔
      id ∈ s.edges.targeting d ∧ ¬ s.Touches gone id :=
    EdgeTable.mem_targeting_without s.edges
  rw [entry]
  refine and_congr_right fun listed => ?_
  obtain ⟨e, he, _⟩ := (indexed.targeting d id).mp listed
  exact (registered_without he).symm

/-- A set of registered subscriptions keeps those that stay registered. -/
theorem mem_without_touched {ids : SubscriptionSet}
    (registered : ∀ id ∈ ids, ∃ e, s.edges.subscriptions[id]? = some e) (id : SubscriptionId) :
    id ∈ ids.without (s.Touches gone) ↔
      id ∈ ids ∧ id ∈ (s.without gone).edges.subscriptions := by
  rw [SubscriptionSet.mem_without]
  refine and_congr_right fun h => ?_
  obtain ⟨e, he⟩ := registered id h
  exact (registered_without he).symm

open scoped Classical in
/-- Forgetting what is gone is forgetting the tops, if these are what is gone from the lists. -/
theorem forget_eq {x : Closure} {tops : List NodeId}
    (owned : ∀ d ∈ x.owned, gone (.datum d) ↔ .datum d ∈ tops)
    (children : ∀ b ∈ x.children, gone (.closure b) ↔ .closure b ∈ tops) :
    x.forget gone = { x with
      owned := x.owned.filter fun d => decide (NodeId.datum d ∉ tops)
      children := x.children.filter fun b => decide (NodeId.closure b ∉ tops) } := by
  rw [Closure.forget]
  congr 1
  · refine List.filter_congr fun b hb => ?_
    simp [children b hb]
  · refine List.filter_congr fun d hd => ?_
    simp [owned d hd]

/-- Taking nodes out loses them and nothing else, if the tops are those in lists of survivors. -/
theorem loses_without (indexed : s.EdgesIndexed) {tops : List NodeId}
    (owned : ∀ (c : ClosureId) (x : Closure), s.closures[c]? = some x → ¬ gone (.closure c) →
      ∀ d ∈ x.owned, gone (.datum d) ↔ .datum d ∈ tops)
    (children : ∀ (c : ClosureId) (x : Closure), s.closures[c]? = some x → ¬ gone (.closure c) →
      ∀ b ∈ x.children, gone (.closure b) ↔ .closure b ∈ tops) :
    s.Loses tops gone (s.without gone) := by
  refine ⟨?_, fun _ _ => subscriptions_without, fun _ _ => indexed.functions_without,
    fun _ _ => indexed.targeting_without, ?_, ?_, rfl⟩
  · intro node
    rw [contains_without, and_comm]
  · intro d x hx stays
    refine ⟨x.outgoing.without (s.Touches gone), ?_, mem_without_touched ?_⟩
    · exact datums_without_eq_some.mpr ⟨stays, x, hx, rfl⟩
    · intro id hid
      obtain ⟨e, he, _⟩ := (indexed.outgoing (.datum d) id).mp (by simpa [outgoing, hx] using hid)
      exact ⟨e, he⟩
  · intro c x hx stays
    have lists := forget_eq (x := x.unlink (s.Touches gone)) (owned c x hx stays)
      (children c x hx stays)
    refine ⟨x.outgoing.without (s.Touches gone), x.incoming.without (s.Touches gone), ?_,
      mem_without_touched ?_, mem_without_touched ?_⟩
    · rw [closures_without_eq_some.mpr ⟨stays, x, hx, rfl⟩, lists]
      rfl
    · intro id hid
      obtain ⟨e, he, _⟩ :=
        (indexed.outgoing (.closure c) id).mp (by simpa [outgoing, hx] using hid)
      exact ⟨e, he⟩
    · intro id hid
      obtain ⟨e, he, _⟩ := (indexed.incoming c id).mp (by simpa [incoming, hx] using hid)
      exact ⟨e, he⟩

/-- In the lists of survivors, a subtree stands only with its top. -/
theorem Forest.loses_subtree (indexed : s.EdgesIndexed) (forest : s.Forest) (c : ClosureId) :
    s.Loses [.closure c] (s.Subtree c) (s.without (s.Subtree c)) := by
  refine loses_without indexed ?_ ?_
  · intro a x hx stays d hd
    obtain ⟨y, hy, owner⟩ := forest.sound.owned a x hx d hd
    refine iff_of_false ?_ (by simp)
    rintro ⟨y', o, hy', owner', descends⟩
    rw [hy] at hy'
    cases hy'
    rw [owner] at owner'
    cases owner'
    exact stays ⟨mem_closures hx, descends⟩
  · intro a x hx stays b hb
    obtain ⟨_, y, hy, parent⟩ := forest.sound.children a x hx b hb
    rw [List.mem_singleton, NodeId.closure.injEq]
    constructor
    · rintro ⟨_, descends⟩
      refine (descends.parent ⟨y, hy, parent⟩).resolve_right fun h => ?_
      exact stays ⟨mem_closures hx, h⟩
    · rintro rfl
      exact ⟨mem_closures hy, .refl⟩

/-- Without the tree, only datums without an owner survive. -/
theorem loses_tree (indexed : s.EdgesIndexed) (tops : List NodeId) :
    s.Loses tops s.InTree (s.without s.InTree) :=
  loses_without indexed (fun _ _ _ stays => absurd trivial stays)
    (fun _ _ _ stays => absurd trivial stays)

/-- In the lists of survivors, a datum stands for itself. -/
theorem loses_datum (indexed : s.EdgesIndexed) (d : DatumId) :
    s.Loses [.datum d] (· = .datum d) (s.without (· = .datum d)) := by
  refine loses_without indexed ?_ ?_
  · intro _ _ _ _ a _
    rw [List.mem_singleton]
  · intro _ _ _ _ b _
    simp

/-- Of the closures, nothing survives without the tree. -/
theorem Loses.no_closure {tops : List NodeId} {t : State κ} (loses : s.Loses tops s.InTree t)
    (c : ClosureId) : c ∉ t.closures := by
  intro live
  obtain ⟨x, hx⟩ := exists_closure live
  have survives := (loses.nodes (.closure c)).mp (contains_closure.mpr ⟨x, hx⟩)
  exact survives.2 trivial

/-- Of the datums, those without an owner survive without the tree. -/
theorem Loses.mem_datums_iff {tops : List NodeId} {t : State κ}
    (loses : s.Loses tops s.InTree t) (d : DatumId) :
    d ∈ t.datums ↔ ∃ x, s.datums[d]? = some x ∧ x.owner = none := by
  rw [mem_datums, ← contains_datum, loses.nodes, contains_datum]
  constructor
  · rintro ⟨⟨x, hx⟩, unowned⟩
    refine ⟨x, hx, ?_⟩
    cases owner : x.owner with
    | none => rfl
    | some o => exact absurd ⟨x, o, hx, owner⟩ unowned
  · rintro ⟨x, hx, owner⟩
    refine ⟨⟨x, hx⟩, ?_⟩
    rintro ⟨y, o, hy, owner'⟩
    rw [hx] at hy
    cases hy
    rw [owner] at owner'
    cases owner'

/-- What stands below the roots, listed in any order, is the tree. -/
theorem Forest.below_roots (forest : s.Forest) {cs : List ClosureId} (perm : cs.Perm s.roots)
    {node : NodeId} (live : s.contains node = true) :
    (∃ c ∈ cs, s.Below c node) ↔ s.InTree node := by
  rw [← forest.roots_subtree live]
  constructor
  · rintro ⟨c, hc, below⟩
    exact ⟨c, perm.mem_iff.mp hc, (forest.below_iff_subtree.mp below).2⟩
  · rintro ⟨r, root, subtree⟩
    obtain ⟨x, hx, _⟩ := mem_roots.mp root
    exact ⟨r, perm.mem_iff.mpr root, forest.below_iff_subtree.mpr ⟨mem_closures hx, subtree⟩⟩

end State

namespace Kernel

open State

variable {k : Kernel κ}

/-- The destruction of a live closure succeeds. -/
theorem destroyClosure_of_live {c : ClosureId} (live : c ∈ k.closures) (order : EdgeOrder κ) :
    k.destroyClosure order c = .ok ((), k.raze order c) := by
  obtain ⟨x, hx⟩ := exists_closure live
  simp [destroyClosure, requireClosure, hx, bind, Except.bind, pure, Except.pure]

/-- The destruction of a live datum succeeds. -/
theorem destroyDatum_of_live {d : DatumId} (live : d ∈ k.datums) (order : EdgeOrder κ) :
    k.destroyDatum order d = .ok ((), k.razeDatum order d) := by
  obtain ⟨x, hx⟩ := mem_datums.mp live
  simp [destroyDatum, requireDatum, hx, bind, Except.bind, pure, Except.pure]

/-- Destroy closures one after another. -/
def destroyAll (order : EdgeOrder κ) : List ClosureId → Kernel κ → Except Fault (Kernel κ)
  | [], k => .ok k
  | c :: cs, k => do
    let (_, k) ← k.destroyClosure order c
    destroyAll order cs k

/-- Roots can be destroyed one after another: each is still live and a root when its turn comes. -/
theorem destroyAll_roots (consistent : k.toState.Consistent) (order : EdgeOrder κ)
    {cs : List ClosureId} (nodup : cs.Nodup) (roots : ∀ c ∈ cs, c ∈ k.toState.roots) :
    ∃ k', destroyAll order cs k = .ok k' ∧
      k'.toState = k.toState.without fun node => ∃ c ∈ cs, k.toState.Below c node := by
  induction cs generalizing k with
  | nil => exact ⟨k, rfl, by simp [without_none consistent.indexed]⟩
  | cons c cs ih =>
    obtain ⟨fresh, nodup⟩ := List.nodup_cons.mp nodup
    obtain ⟨x, hx, _⟩ := mem_roots.mp (roots c (by simp))
    have state := toState_raze consistent.indexed consistent.forest.sound order c
    have cascades := consistent.forest.sound.cascades_below c
    have later (b : ClosureId) (hb : b ∈ cs) : b ∈ (k.raze order c).toState.roots := by
      have root := roots b (by simp [hb])
      obtain ⟨y, hy, parentless⟩ := mem_roots.mp root
      have stays : ¬ k.toState.Below c (.closure b) := by
        intro below
        obtain ⟨_, _, descends⟩ := consistent.forest.below_iff_subtree.mp below
        exact fresh (eq_of_descends_root root descends ▸ hb)
      rw [state]
      exact mem_roots.mpr ⟨_, closures_without_eq_some.mpr ⟨stays, y, hy, rfl⟩, parentless⟩
    obtain ⟨k', done, gone⟩ := ih (k := k.raze order c) (state ▸ consistent.without cascades)
      nodup later
    refine ⟨k', ?_, ?_⟩
    · rw [destroyAll, destroyClosure_of_live (mem_closures hx)]
      exact done
    · rw [gone, state, without_below_cons consistent.forest.sound]

/-- A live closure goes with its subtree. -/
theorem loses_raze (consistent : k.toState.Consistent) (order : EdgeOrder κ) {c : ClosureId}
    (live : c ∈ k.closures) :
    k.toState.Loses [.closure c] (k.toState.Subtree c) (k.raze order c).toState := by
  obtain ⟨indexed, forest, _⟩ := consistent
  have subtree : k.toState.Below c = k.toState.Subtree c := by
    funext node
    rw [forest.below_iff_subtree, eq_iff_iff, and_iff_right live]
  rw [toState_raze indexed forest.sound, subtree]
  exact forest.loses_subtree indexed c

/-- Destroying all roots in any order succeeds and takes the tree. -/
theorem loses_destroyAll (consistent : k.toState.Consistent) (order : EdgeOrder κ)
    {cs : List ClosureId} (perm : cs.Perm k.toState.roots) :
    ∃ k', destroyAll order cs k = .ok k' ∧
      k.toState.Loses (cs.map .closure) k.toState.InTree k'.toState := by
  have nodup : cs.Nodup := perm.nodup_iff.mpr k.toState.nodup_roots
  obtain ⟨k', done, state⟩ := destroyAll_roots consistent order nodup fun c hc =>
    perm.mem_iff.mp hc
  have tree : k'.toState = k.toState.without k.toState.InTree := by
    rw [state]
    exact without_congr consistent.indexed consistent.forest.sound fun node live =>
      consistent.forest.below_roots perm live
  refine ⟨k', done, ?_⟩
  rw [tree]
  exact loses_tree consistent.indexed (cs.map .closure)

/-- In a reachable kernel, destroying a live closure succeeds, takes exactly its subtree, and
would not do anything else with more fuel; destroying a live datum succeeds and takes exactly that
datum; and destroying all roots in any order succeeds and takes exactly the tree, so that no
closure and no owned datum is left. -/
theorem destruction_exact {k : Kernel κ} (h : k.Reachable) (order : EdgeOrder κ) :
    (∀ c ∈ k.closures, ∃ k', k.destroyClosure order c = .ok ((), k') ∧
      k.toState.Loses [.closure c] (k.toState.Subtree c) k'.toState ∧
      ∀ fuel, k.closures.size < fuel → razeClosure order fuel k c = k') ∧
    (∀ d ∈ k.datums, ∃ k', k.destroyDatum order d = .ok ((), k') ∧
      k.toState.Loses [.datum d] (· = .datum d) k'.toState) ∧
    ∀ cs : List ClosureId, cs.Perm k.toState.roots →
      ∃ k', destroyAll order cs k = .ok k' ∧
        k.toState.Loses (cs.map .closure) k.toState.InTree k'.toState ∧
        (∀ c, c ∉ k'.closures) ∧
        ∀ d, d ∈ k'.datums ↔ ∃ x, k.datums[d]? = some x ∧ x.owner = none := by
  have consistent := h.consistent
  have indexed := consistent.indexed
  have forest := consistent.forest
  refine ⟨?_, ?_, ?_⟩
  · intro c live
    have stable (fuel : Nat) (enough : k.closures.size < fuel) :
        razeClosure order fuel k c = k.raze order c :=
      razeClosure_eq_raze indexed forest.sound order c enough
    exact ⟨k.raze order c, destroyClosure_of_live live order, loses_raze consistent order live,
      stable⟩
  · intro d live
    have loses := loses_datum indexed d
    rw [← toState_razeDatum indexed forest.sound order] at loses
    exact ⟨k.razeDatum order d, destroyDatum_of_live live order, loses⟩
  · intro cs perm
    obtain ⟨k', done, loses⟩ := loses_destroyAll consistent order perm
    exact ⟨k', done, loses, loses.no_closure, loses.mem_datums_iff⟩

/-- Three closures below one another. The middle one owns a datum and has a subscription to
itself; another datum has no owner and a subscription to the lowest closure. -/
def nested : Kernel Unit :=
  (Kernel.create .standard .empty).performAll .ascending
    [.createClosure "Root" none, .createClosure "Middle" (some ⟨0⟩),
     .createClosure "Leaf" (some ⟨1⟩), .createDatum "Owned" [] (some ⟨1⟩),
     .createDatum "Free" [] none,
     .subscribe (.closure ⟨1⟩) (.closure ⟨1⟩) .everything (),
     .subscribe (.datum ⟨1⟩) (.closure ⟨2⟩) .everything ()]

theorem nested_reachable : nested.Reachable := reachable_performAll _ _ _ _

/-- Destroying the middle closure takes the lowest one along; destroying the root leaves the datum
without an owner. -/
theorem destruction_exact_nested :
    nested.Reachable ∧
    (∃ k', nested.destroyClosure .ascending ⟨1⟩ = .ok ((), k') ∧
      ¬ k'.toState.contains (.closure ⟨2⟩) = true) ∧
    ∃ k', destroyAll .ascending [⟨0⟩] nested = .ok k' ∧ (⟨1⟩ : DatumId) ∈ k'.datums := by
  obtain ⟨closure, _, all⟩ := destruction_exact nested_reachable .ascending
  refine ⟨nested_reachable, ?_, ?_⟩
  · obtain ⟨k', done, loses, _⟩ := closure ⟨1⟩ (by decide)
    refine ⟨k', done, fun live => ?_⟩
    have parent : (nested.closures[(⟨2⟩ : ClosureId)]?).map Closure.parent = some (some ⟨1⟩) := by
      decide
    obtain ⟨y, hy, up⟩ := Option.map_eq_some_iff.mp parent
    exact ((loses.nodes (.closure ⟨2⟩)).mp live).2 ⟨mem_closures hy, .single ⟨y, hy, up⟩⟩
  · have roots : [⟨0⟩].Perm nested.toState.roots := by decide
    obtain ⟨k', done, _, _, survives⟩ := all [⟨0⟩] roots
    have unowned : (nested.datums[(⟨1⟩ : DatumId)]?).map Datum.owner = some none := by decide
    exact ⟨k', done, (survives ⟨1⟩).mpr (Option.map_eq_some_iff.mp unowned)⟩

end Kernel

end ReactiveKernel
