import ReactiveKernel.Proofs.Effect.Basic

/-!
# Every run keeps its states consistent

Each effect keeps a state consistent, only ever counts identities up, and brings nothing back
that was given out before and is gone. So these hold of every reachable kernel, and between any
two moments of a run.
-/

namespace ReactiveKernel

variable {κ : Type}

namespace State

/-- Identities are only counted up, and what was given out and is gone stays gone. -/
structure Evolves (s t : State κ) : Prop where
  /-- The count of datums. -/
  datums_le : s.counters.datums ≤ t.counters.datums
  /-- The count of closures. -/
  closures_le : s.counters.closures ≤ t.counters.closures
  /-- The count of subscriptions. -/
  subscriptions_le : s.counters.subscriptions ≤ t.counters.subscriptions
  /-- A live datum that is not new was live. -/
  datums : ∀ d : DatumId, d ∈ t.datums → d.index < s.counters.datums → d ∈ s.datums
  /-- A live closure that is not new was live. -/
  closures : ∀ c : ClosureId, c ∈ t.closures → c.index < s.counters.closures → c ∈ s.closures
  /-- A registered subscription that is not new was registered. -/
  registered : ∀ id : SubscriptionId, id ∈ t.edges.subscriptions →
    id.raw < s.counters.subscriptions → id ∈ s.edges.subscriptions

variable {s t u : State κ}

theorem Evolves.refl (s : State κ) : s.Evolves s :=
  ⟨Nat.le_refl _, Nat.le_refl _, Nat.le_refl _, fun _ h _ => h, fun _ h _ => h, fun _ h _ => h⟩

theorem Evolves.trans (h : s.Evolves t) (h' : t.Evolves u) : s.Evolves u := by
  refine ⟨Nat.le_trans h.datums_le h'.datums_le, Nat.le_trans h.closures_le h'.closures_le,
    Nat.le_trans h.subscriptions_le h'.subscriptions_le, ?_, ?_, ?_⟩
  · intro d hd old
    exact h.datums d (h'.datums d hd (Nat.lt_of_lt_of_le old h.datums_le)) old
  · intro c hc old
    exact h.closures c (h'.closures c hc (Nat.lt_of_lt_of_le old h.closures_le)) old
  · intro id hid old
    exact h.registered id (h'.registered id hid (Nat.lt_of_lt_of_le old h.subscriptions_le)) old

/-- A datum is in the table exactly if there is a record of it. -/
theorem mem_datums {d : DatumId} : d ∈ s.datums ↔ ∃ x, s.datums[d]? = some x := by
  rw [Std.ExtTreeMap.mem_iff_isSome_getElem?, Option.isSome_iff_exists]

/-- A state evolves to one with the same tree if no subscription is new. -/
theorem SameTree.evolves (h : s.SameTree t) (counters : t.counters = s.counters)
    (edges : ∀ id, id ∈ t.edges.subscriptions → id ∈ s.edges.subscriptions) : s.Evolves t := by
  refine ⟨by rw [counters], by rw [counters], by rw [counters], ?_, ?_,
    fun id hid _ => edges id hid⟩
  · intro d hd _
    obtain ⟨y, hy⟩ := mem_datums.mp hd
    obtain ⟨x, hx, _⟩ := h.datum hy
    exact mem_datums.mpr ⟨x, hx⟩
  · intro c hc _
    obtain ⟨y, hy⟩ := exists_closure hc
    obtain ⟨x, hx, _⟩ := h.closure hy
    exact mem_closures hx

/-- A state evolves to one with the same links. -/
theorem SameLinks.evolves (h : s.SameLinks t) : s.Evolves t :=
  h.tree.evolves h.counters fun _ hid => h.edges ▸ hid

/-- A state evolves when a datum is added. -/
theorem evolves_addDatum (s : State κ) (typeName : String) (content : Content)
    (owner : Option ClosureId) : s.Evolves (s.addDatum typeName content owner) := by
  refine ⟨Nat.le_succ _, Nat.le_refl _, Nat.le_refl _, ?_, ?_, fun _ h _ => h⟩
  · intro d hd old
    obtain ⟨y, hy⟩ := mem_datums.mp hd
    rw [getElem?_datums_addDatum] at hy
    split at hy
    · next new =>
      subst new
      exact absurd old (Nat.lt_irrefl _)
    · exact mem_datums.mpr ⟨y, hy⟩
  · intro c hc _
    obtain ⟨y, hy⟩ := exists_closure hc
    obtain ⟨x, hx, _⟩ := closures_addDatum hy
    exact mem_closures hx

/-- A state evolves when a closure is added. -/
theorem evolves_addClosure (s : State κ) (template : String) (parent : Option ClosureId) :
    s.Evolves (s.addClosure template parent) := by
  refine ⟨Nat.le_refl _, Nat.le_succ _, Nat.le_refl _, fun _ h _ => h, ?_, fun _ h _ => h⟩
  intro c hc old
  obtain ⟨y, hy⟩ := exists_closure hc
  rcases closures_addClosure hy with ⟨rfl, _⟩ | ⟨_, x, hx, _⟩
  · exact absurd old (Nat.lt_irrefl _)
  · exact mem_closures hx

/-- A state evolves when a subscription is added. -/
theorem evolves_addEdge (s : State κ) (source target : NodeId) (selector : Selector) (code : κ) :
    s.Evolves (s.addEdge source target selector code) := by
  have tree := s.sameTree_addEdge source target selector code
  refine ⟨Nat.le_refl _, Nat.le_refl _, Nat.le_succ _, ?_, ?_, ?_⟩
  · intro d hd _
    obtain ⟨y, hy⟩ := mem_datums.mp hd
    obtain ⟨x, hx, _⟩ := tree.datum hy
    exact mem_datums.mpr ⟨x, hx⟩
  · intro c hc _
    obtain ⟨y, hy⟩ := exists_closure hc
    obtain ⟨x, hx, _⟩ := tree.closure hy
    exact mem_closures hx
  · intro id hid old
    obtain ⟨e, he⟩ := Kernel.mem_subscriptions.mp hid
    rw [getElem?_subscriptions_addEdge] at he
    split at he
    · next new =>
      subst new
      exact absurd old (Nat.lt_irrefl _)
    · exact Kernel.mem_subscriptions.mpr ⟨e, he⟩

/-- A state evolves when subscriptions are lost. -/
theorem evolves_dropEdges (s : State κ) (lost : SubscriptionId → Prop) :
    s.Evolves (s.dropEdges lost) := by
  refine (s.sameTree_dropEdges lost).evolves rfl ?_
  intro id hid
  obtain ⟨e, he⟩ := Kernel.mem_subscriptions.mp hid
  exact Kernel.mem_subscriptions.mpr
    ⟨e, ((EdgeTable.subscriptions_without_eq_some s.edges).mp he).2⟩

/-- A state evolves when nodes are lost. -/
theorem evolves_dropNodes (s : State κ) (gone : NodeId → Prop) : s.Evolves (s.dropNodes gone) := by
  refine ⟨Nat.le_refl _, Nat.le_refl _, Nat.le_refl _, ?_, ?_, fun _ h _ => h⟩
  · intro d hd _
    obtain ⟨y, hy⟩ := mem_datums.mp hd
    rw [getElem?_datums_dropNodes] at hy
    split at hy
    · cases hy
    · exact mem_datums.mpr ⟨y, hy⟩
  · intro c hc _
    obtain ⟨y, hy⟩ := exists_closure hc
    rw [getElem?_closures_dropNodes] at hy
    split at hy
    · cases hy
    · obtain ⟨x, hx, _⟩ := Option.map_eq_some_iff.mp hy
      exact mem_closures hx

/-- What cascades from a loss of nodes does not depend on subscriptions. -/
theorem Cascades.dropEdges {gone : NodeId → Prop} (cascades : s.Cascades gone)
    (lost : SubscriptionId → Prop) : (s.dropEdges lost).Cascades gone := by
  constructor
  · intro c y hy h d hd
    obtain ⟨x, hx, _, _, owned⟩ := (s.sameTree_dropEdges lost).closure hy
    exact cascades.owned c x hx h d (owned ▸ hd)
  · intro c y hy h b hb
    obtain ⟨x, hx, _, children, _⟩ := (s.sameTree_dropEdges lost).closure hy
    exact cascades.children c x hx h b (children ▸ hb)

/-- Dropping subscriptions and taking out nodes that no other subscription touches. -/
theorem Consistent.remove (consistent : s.Consistent) {lost : SubscriptionId → Prop}
    {gone : NodeId → Prop} (covers : ∀ id, s.Touches gone id → lost id)
    (cascades : s.Cascades gone) : ((s.dropEdges lost).dropNodes gone).Consistent := by
  have middle := consistent.dropEdges lost
  have untouched : (s.dropEdges lost).Touches gone = fun _ => False := by
    funext id
    rw [eq_iff_iff, iff_false]
    rintro ⟨e, he, h⟩
    obtain ⟨kept, here⟩ := (EdgeTable.subscriptions_without_eq_some s.edges).mp he
    exact kept (covers id ⟨e, here, h⟩)
  have all : (s.dropEdges lost).without gone = (s.dropEdges lost).dropNodes gone := by
    rw [State.without, untouched, dropEdges_none middle.indexed]
  exact all ▸ middle.without (cascades.dropEdges lost)

end State

namespace Kernel

open State

variable {k k' : Kernel κ} {change : Option (NodeId × Change)}

/-- Effects keep a state consistent. -/
theorem Effect.consistent (consistent : k.toState.Consistent) (h : k.Effect change k') :
    k'.toState.Consistent := by
  cases h with
  | still same pending _ =>
    exact same.toSameLinks.consistent consistent (pending ▸ consistent.issued.pending)
  | instantiated _ _ state _ => exact state ▸ consistent
  | datumCreated typeName content owner live state _ =>
    exact state ▸ consistent.addDatum typeName content live
  | closureCreated template parent live state _ =>
    exact state ▸ consistent.addClosure template live
  | subscribed source target selector code source_live target_live state pending _ =>
    have added := consistent.addEdge source_live target_live selector code
    rw [state]
    refine (SameStamps.withPending _ _).toSameLinks.consistent added ?_
    intro id hid
    rcases (pending id).mp hid with old | ⟨rfl, _⟩
    · exact Nat.lt_succ_of_lt (consistent.issued.pending id old)
    · exact Nat.lt_succ_self _
  | changed e node change _ _ links _ _ _ _ pending _ =>
    refine links.consistent consistent ?_
    intro id hid
    rcases (pending id).mp hid with old | ⟨e, he, _⟩ | ⟨_, _, e, he, _⟩
    · exact consistent.issued.pending id old
    · exact consistent.issued.registered id e he
    · exact consistent.issued.registered id e he
  | removed lost gone covers cascades state _ => exact state ▸ consistent.remove covers cascades

/-- A state evolves by every effect. -/
theorem Effect.evolves (h : k.Effect change k') : k.toState.Evolves k'.toState := by
  cases h with
  | still same _ _ => exact same.toSameLinks.evolves
  | instantiated _ _ state _ => exact state ▸ .refl _
  | datumCreated typeName content owner _ state _ =>
    exact state ▸ evolves_addDatum _ typeName content owner
  | closureCreated template parent _ state _ =>
    exact state ▸ evolves_addClosure _ template parent
  | subscribed source target selector code _ _ state _ _ =>
    rw [state]
    exact (evolves_addEdge _ source target selector code).trans
      (SameStamps.withPending _ _).toSameLinks.evolves
  | changed _ _ _ _ _ links _ _ _ _ _ _ => exact links.evolves
  | removed lost gone _ _ state _ =>
    exact state ▸ (evolves_dropEdges _ lost).trans (evolves_dropNodes _ gone)

/-- What a drain does leaves the links between nodes and subscriptions alone. -/
theorem DrainAction.sameLinks (h : k.DrainAction k') : k.toState.SameLinks k'.toState := by
  cases h with
  | emit e _ => exact (SameStamps.refl _).toSameLinks
  | note o _ => exact (SameStamps.refl _).toSameLinks
  | reschedule s _ => exact ⟨rfl, rfl, fun _ => rfl, fun _ => rfl⟩

/-- What a drain does leaves nothing pending that was not. -/
theorem DrainAction.pending (h : k.DrainAction k') {id : SubscriptionId}
    (hid : id ∈ k'.schedule.pending) : id ∈ k.schedule.pending := by
  cases h with
  | emit e _ => exact hid
  | note o _ => exact hid
  | reschedule s keeps => exact keeps id hid

/-- A probe does not change the state. -/
theorem toState_probe (p : Probe) (k : Kernel κ) : (p.perform k).2.toState = k.toState := by
  cases p <;> rfl

/-- The state of a new kernel is consistent. -/
theorem consistent_create (settings : Settings) (templates : TemplateLibrary κ) :
    (Kernel.create settings templates).toState.Consistent := by
  have no_edge (id : SubscriptionId) :
      (Kernel.create settings templates).edges.subscriptions[id]? = none :=
    Std.ExtTreeMap.getElem?_empty
  have no_datum (d : DatumId) : (Kernel.create settings templates).datums[d]? = none :=
    Std.ExtTreeMap.getElem?_empty
  have no_closure (c : ClosureId) : (Kernel.create settings templates).closures[c]? = none :=
    Std.ExtTreeMap.getElem?_empty
  have no_target (d : DatumId) :
      (Kernel.create settings templates).edges.datumTargets[d]? = none :=
    Std.ExtTreeMap.getElem?_empty
  refine ⟨⟨?_, ?_, ?_, ?_, ?_, ?_, ?_, ?_⟩, ⟨⟨?_, ?_⟩, ⟨?_, ?_⟩, ⟨?_, ?_⟩⟩, ⟨?_, ?_, ?_, ?_, ?_⟩⟩
  · intro node id
    cases node <;> simp [outgoing, no_edge, no_datum, no_closure]
  · simp [incoming, no_edge, no_closure]
  · simp [EdgeTable.targeting, no_edge, no_target]
  · simp [no_target]
  · simp [no_edge]
  · simp [no_edge]
  · intro f
    simp only [no_edge]
    simp [create, log, note, State.initial, EdgeTable.empty]
  · simp [no_edge]
  · simp [no_closure]
  · simp [no_closure]
  · simp [no_datum]
  · simp [no_closure]
  · simp [no_closure]
  · simp [no_closure]
  · simp [no_datum]
  · simp [no_closure]
  · simp [no_edge]
  · simp [no_edge]
  · simp [create, log, note, State.initial, Schedule.initial]

end Kernel

/-- States are consistent, and identities are never given out again. -/
def Contract.consistency (κ : Type) : Contract κ :=
  ⟨fun k => k.toState.Consistent, fun k k' => k.toState.Evolves k'.toState, fun _ _ => True⟩

namespace Contract

open Kernel

/-- All actions keep states consistent. -/
theorem consistency_drainStable : (consistency κ).DrainStable where
  refl k := State.Evolves.refl k.toState
  trans := State.Evolves.trans
  returns_refl _ := trivial
  returns_trans _ _ := trivial
  act _ _ _ action consistent :=
    have ⟨_, effect⟩ := action.effect consistent
    ⟨effect.consistent consistent, effect.evolves, trivial⟩
  drainAct action consistent :=
    ⟨action.sameLinks.consistent consistent fun id hid =>
      consistent.issued.pending id (action.pending hid), action.sameLinks.evolves, trivial⟩

/-- States are consistent in every run. -/
theorem consistency_sound : (consistency κ).Sound :=
  consistency_drainStable.sound fun p k consistent => by
    have same := toState_probe p k
    exact ⟨show (p.perform k).2.toState.Consistent from same ▸ consistent,
      show k.toState.Evolves (p.perform k).2.toState from same ▸ .refl _, trivial⟩

end Contract

namespace Kernel

variable {k k' : Kernel κ}

/-- The state of a reachable kernel is consistent. -/
theorem Reachable.consistent (h : k.Reachable) : k.toState.Consistent :=
  Contract.consistency_sound.reachable consistent_create h

/-- What is gone stays gone. -/
theorem Precedes.evolves (h : k.Precedes k') : k.toState.Evolves k'.toState :=
  Contract.consistency_sound.precedes consistent_create h

end Kernel

end ReactiveKernel
