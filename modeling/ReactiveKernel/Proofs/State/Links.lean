import Mathlib.Logic.Relation
import ReactiveKernel.Proofs.State.Tables

/-!
# Indexes and the forest of closures

The table of edges is indexed at both ends of every edge, and the tree of closures is kept on
both sides of every link. The structures here say when the sides agree. Nodes below a closure
can be found by going down through the lists or by going up through the parents; in a forest
the two ways find the same nodes.
-/

namespace ReactiveKernel

variable {κ : Type}

namespace State

/-- The subscriptions whose target is a closure. -/
def incoming (s : State κ) (id : ClosureId) : SubscriptionSet :=
  ((s.closures[id]?).map Closure.incoming).getD ∅

/-- Every index of the edges holds what the table of edges holds. -/
structure EdgesIndexed (s : State κ) : Prop where
  /-- A node knows the subscriptions that start at it. -/
  outgoing : ∀ node id, id ∈ s.outgoing node ↔
    ∃ e, s.edges.subscriptions[id]? = some e ∧ e.source = node
  /-- A closure knows the subscriptions that end at it. -/
  incoming : ∀ c id, id ∈ s.incoming c ↔
    ∃ e, s.edges.subscriptions[id]? = some e ∧ e.target = .closure c
  /-- The subscriptions that end at a datum are known. -/
  targeting : ∀ d id, id ∈ s.edges.targeting d ↔
    ∃ e, s.edges.subscriptions[id]? = some e ∧ e.target = .datum d
  /-- A datum at which no subscription ends has no entry. -/
  targeted : ∀ (d : DatumId) (ids : SubscriptionSet), s.edges.datumTargets[d]? = some ids →
    ∃ id, id ∈ ids
  /-- Subscriptions start at live nodes. -/
  source_live : ∀ (id : SubscriptionId) (e : Subscription),
    s.edges.subscriptions[id]? = some e → s.contains e.source = true
  /-- Subscriptions end at live nodes. -/
  target_live : ∀ (id : SubscriptionId) (e : Subscription),
    s.edges.subscriptions[id]? = some e → s.contains e.target = true
  /-- The functions are the callbacks of the subscriptions. -/
  functions : ∀ f : FunctionId, f ∈ s.edges.functions ↔
    ∃ (id : SubscriptionId) (e : Subscription), s.edges.subscriptions[id]? = some e ∧ e.callback = f
  /-- No two subscriptions share a callback. -/
  callback_injective : ∀ (id id' : SubscriptionId) (e e' : Subscription),
    s.edges.subscriptions[id]? = some e → s.edges.subscriptions[id']? = some e' →
      e.callback = e'.callback → id = id'

/-- A subscription without a callback is not registered. -/
theorem EdgesIndexed.callback_none {s : State κ} {id : SubscriptionId} (indexed : s.EdgesIndexed)
    (h : s.edges.callback? id = none) : s.edges.subscriptions[id]? = none := by
  cases he : s.edges.subscriptions[id]? with
  | none => rfl
  | some e =>
    have listed : e.callback ∈ s.edges.functions := (indexed.functions _).mpr ⟨id, e, he, rfl⟩
    obtain ⟨code, hc⟩ := Option.isSome_iff_exists.mp
      (Std.ExtTreeMap.mem_iff_isSome_getElem?.mp listed)
    simp [EdgeTable.callback?, he, hc] at h

/-- The nodes in the lists of a closure are live and refer back to it. -/
structure ListsSound (s : State κ) : Prop where
  /-- An owned datum is live and knows its owner. -/
  owned : ∀ (c : ClosureId) (x : Closure), s.closures[c]? = some x → ∀ d ∈ x.owned,
    ∃ y, s.datums[d]? = some y ∧ y.owner = some c
  /-- A child is live, knows its parent, and is younger. -/
  children : ∀ (c : ClosureId) (x : Closure), s.closures[c]? = some x → ∀ b ∈ x.children,
    c.index < b.index ∧ ∃ y, s.closures[b]? = some y ∧ y.parent = some c

/-- A node that refers to an owner or a parent is in the lists of that closure. -/
structure ListsComplete (s : State κ) : Prop where
  /-- The owner of a datum is live and lists it. -/
  owner : ∀ (d : DatumId) (y : Datum), s.datums[d]? = some y → ∀ c, y.owner = some c →
    ∃ x, s.closures[c]? = some x ∧ d ∈ x.owned
  /-- The parent of a closure is live and lists it. -/
  parent : ∀ (b : ClosureId) (y : Closure), s.closures[b]? = some y → ∀ c, y.parent = some c →
    ∃ x, s.closures[c]? = some x ∧ b ∈ x.children

/-- The lists of a closure are in order of age. -/
structure ListsAscend (s : State κ) : Prop where
  /-- Owned datums, oldest first. -/
  owned : ∀ (c : ClosureId) (x : Closure), s.closures[c]? = some x →
    x.owned.Pairwise fun d d' => d.index < d'.index
  /-- Children, oldest first. -/
  children : ∀ (c : ClosureId) (x : Closure), s.closures[c]? = some x →
    x.children.Pairwise fun b b' => b.index < b'.index

/-- The links between closures, and between closures and datums, agree on both sides. -/
structure Forest (s : State κ) : Prop where
  /-- What is listed refers back. -/
  sound : s.ListsSound
  /-- What refers up is listed. -/
  complete : s.ListsComplete
  /-- Lists are in order of age. -/
  ascend : s.ListsAscend

/-- The nodes that are found from a live closure by going down. -/
inductive Below (s : State κ) : ClosureId → NodeId → Prop
  /-- The closure itself. -/
  | self {c : ClosureId} {x : Closure} : s.closures[c]? = some x → Below s c (.closure c)
  /-- A datum that it owns. -/
  | owned {c : ClosureId} {x : Closure} {d : DatumId} : s.closures[c]? = some x → d ∈ x.owned →
    Below s c (.datum d)
  /-- What is below one of its children. -/
  | child {c : ClosureId} {x : Closure} {b : ClosureId} {node : NodeId} :
    s.closures[c]? = some x → b ∈ x.children → Below s b node → Below s c node

/-- One closure is the parent of another one. -/
def IsParent (s : State κ) (b c : ClosureId) : Prop :=
  ∃ y, s.closures[b]? = some y ∧ y.parent = some c

/-- Going up from the first closure through parents reaches the second one. -/
def Descends (s : State κ) : ClosureId → ClosureId → Prop := Relation.ReflTransGen s.IsParent

/-- The subtree of a closure: the closures that descend from it and the datums that they own. -/
def Subtree (s : State κ) (c : ClosureId) : NodeId → Prop
  | .closure b => b ∈ s.closures ∧ s.Descends b c
  | .datum d => ∃ y o, s.datums[d]? = some y ∧ y.owner = some o ∧ s.Descends o c

variable {s : State κ}

/-- A closure that something is below is live. -/
theorem Below.top_live {c : ClosureId} {node : NodeId} (h : s.Below c node) :
    ∃ x, s.closures[c]? = some x := by
  cases h with
  | self hc => exact ⟨_, hc⟩
  | owned hc _ => exact ⟨_, hc⟩
  | child hc _ _ => exact ⟨_, hc⟩

/-- What is below a closure is live. -/
theorem Below.live (sound : s.ListsSound) {c : ClosureId} {node : NodeId}
    (h : s.Below c node) : s.contains node = true := by
  induction h with
  | self hc => simp [contains, Std.ExtTreeMap.contains_eq_isSome_getElem?, hc]
  | owned hc hd =>
    obtain ⟨y, hy, _⟩ := sound.owned _ _ hc _ hd
    simp [contains, Std.ExtTreeMap.contains_eq_isSome_getElem?, hy]
  | child _ _ _ ih => exact ih

/-- Nodes below a closure are not older. -/
theorem Below.index_le (sound : s.ListsSound) {c b : ClosureId} (h : s.Below c (.closure b)) :
    c.index ≤ b.index := by
  generalize hn : NodeId.closure b = node at h
  induction h with
  | self hc =>
    cases hn
    exact Nat.le_refl _
  | owned hc hd => cases hn
  | child hc hb _ ih =>
    have younger := (sound.children _ _ hc _ hb).1
    have le := ih hn
    omega

theorem Below.trans {c b : ClosureId} {node : NodeId} (h : s.Below c (.closure b))
    (h' : s.Below b node) : s.Below c node := by
  generalize hn : NodeId.closure b = middle at h
  induction h with
  | self hc =>
    cases hn
    exact h'
  | owned hc hd => cases hn
  | child hc hb _ ih => exact .child hc hb (ih hn)

/-- A closure with a record is live. -/
theorem mem_closures {c : ClosureId} {x : Closure} (h : s.closures[c]? = some x) :
    c ∈ s.closures :=
  Std.ExtTreeMap.mem_iff_isSome_getElem?.mpr (by simp [h])

/-- A live closure has a record. -/
theorem exists_closure {c : ClosureId} (h : c ∈ s.closures) : ∃ x, s.closures[c]? = some x :=
  Option.isSome_iff_exists.mp (Std.ExtTreeMap.mem_iff_isSome_getElem?.mp h)

/-- A closure is found by going down from whatever it descends from: the last link upwards is the
first one downwards. -/
theorem ListsComplete.below_of_descends (complete : s.ListsComplete) {b c : ClosureId}
    (hb : b ∈ s.closures) (h : s.Descends b c) : s.Below c (.closure b) := by
  induction h with
  | refl =>
    obtain ⟨x, hx⟩ := exists_closure hb
    exact .self hx
  | tail _ up ih =>
    obtain ⟨y, hy, parent⟩ := up
    obtain ⟨x, hx, listed⟩ := complete.parent _ _ hy _ parent
    exact .child hx listed ih

/-- Going down finds what going up finds. -/
theorem Forest.below_iff_subtree (forest : s.Forest) {c : ClosureId} {node : NodeId} :
    s.Below c node ↔ c ∈ s.closures ∧ s.Subtree c node := by
  constructor
  · intro h
    induction h with
    | self hc => exact ⟨mem_closures hc, mem_closures hc, .refl⟩
    | owned hc hd =>
      obtain ⟨y, hy, owner⟩ := forest.sound.owned _ _ hc _ hd
      exact ⟨mem_closures hc, y, _, hy, owner, .refl⟩
    | @child c x b node hc hb _ ih =>
      obtain ⟨_, y, hy, parent⟩ := forest.sound.children _ _ hc _ hb
      have up : s.IsParent b c := ⟨y, hy, parent⟩
      refine ⟨mem_closures hc, ?_⟩
      cases node with
      | closure a => exact ⟨ih.2.1, ih.2.2.tail up⟩
      | datum d =>
        obtain ⟨z, o, hz, owner, descends⟩ := ih.2
        exact ⟨z, o, hz, owner, descends.tail up⟩
  · rintro ⟨_, h⟩
    cases node with
    | closure b => exact forest.complete.below_of_descends h.1 h.2
    | datum d =>
      obtain ⟨y, o, hy, owner, descends⟩ := h
      obtain ⟨x, hx, listed⟩ := forest.complete.owner _ _ hy _ owner
      have above := forest.complete.below_of_descends (mem_closures hx) descends
      exact above.trans (.owned hx listed)

end State

end ReactiveKernel
