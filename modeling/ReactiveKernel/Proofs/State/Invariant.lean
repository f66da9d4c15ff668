import ReactiveKernel.Proofs.State.Destruction

/-!
# The invariant of states

In a consistent state every index of the edges agrees with the table, the links between nodes
form a forest, and every identity in use was given out by the counters. Changes that leave the
links of all nodes alone keep a state consistent, and so does taking out nodes together with
all that they list.
-/

namespace ReactiveKernel

variable {κ : Type}

/-- What other parts of a state rely on in the record of a datum. -/
def Datum.links (d : Datum) : Option ClosureId × SubscriptionSet := (d.owner, d.outgoing)

/-- What other parts of a state rely on in the record of a closure. -/
def Closure.links (c : Closure) :
    Option ClosureId × List ClosureId × List DatumId × SubscriptionSet × SubscriptionSet :=
  (c.parent, c.children, c.owned, c.outgoing, c.incoming)

/-- The place of a closure in the tree. -/
def Closure.place (c : Closure) : Option ClosureId × List ClosureId × List DatumId :=
  (c.parent, c.children, c.owned)

namespace State

/-- All identities in use were given out. -/
structure Issued (s : State κ) : Prop where
  /-- Live datums. -/
  datums : ∀ (d : DatumId) (x : Datum), s.datums[d]? = some x → d.index < s.counters.datums
  /-- Live closures. -/
  closures : ∀ (c : ClosureId) (x : Closure), s.closures[c]? = some x →
    c.index < s.counters.closures
  /-- Registered subscriptions. -/
  registered : ∀ (id : SubscriptionId) (e : Subscription), s.edges.subscriptions[id]? = some e →
    id.raw < s.counters.subscriptions
  /-- Callbacks of registered subscriptions. -/
  callbacks : ∀ (id : SubscriptionId) (e : Subscription), s.edges.subscriptions[id]? = some e →
    e.callback.raw < s.counters.functions
  /-- Pending subscriptions. -/
  pending : ∀ id ∈ s.schedule.pending, id.raw < s.counters.subscriptions

/-- The invariant that operations rely on and keep. -/
structure Consistent (s : State κ) : Prop where
  /-- Indexes agree with the table of edges. -/
  indexed : s.EdgesIndexed
  /-- Links agree on both sides. -/
  forest : s.Forest
  /-- Identities were given out. -/
  issued : s.Issued

/-- The second state has the same nodes at the same places in the tree. -/
structure SameTree (s t : State κ) : Prop where
  /-- The datums have the same owners. -/
  datums : ∀ d : DatumId, (t.datums[d]?).map Datum.owner = (s.datums[d]?).map Datum.owner
  /-- The closures have the same places. -/
  closures : ∀ c : ClosureId,
    (t.closures[c]?).map Closure.place = (s.closures[c]?).map Closure.place

/-- The second state has the same nodes with the same links, and the same edges. -/
structure SameLinks (s t : State κ) : Prop where
  /-- No identity was given out. -/
  counters : t.counters = s.counters
  /-- The edges are the same. -/
  edges : t.edges = s.edges
  /-- The datums have the same links. -/
  datums : ∀ d : DatumId, (t.datums[d]?).map Datum.links = (s.datums[d]?).map Datum.links
  /-- The closures have the same links. -/
  closures : ∀ c : ClosureId,
    (t.closures[c]?).map Closure.links = (s.closures[c]?).map Closure.links

variable {s t : State κ}

/-- With the same edges and the same sets, the indexes agree as before. -/
theorem EdgesIndexed.transfer (indexed : s.EdgesIndexed) (edges : t.edges = s.edges)
    (outgoing : ∀ node, t.outgoing node = s.outgoing node)
    (incoming : ∀ c, t.incoming c = s.incoming c)
    (live : ∀ node, s.contains node = true → t.contains node = true) : t.EdgesIndexed := by
  refine ⟨?_, ?_, ?_, ?_, ?_, ?_, ?_, ?_⟩
  · intro node id
    rw [outgoing, edges]
    exact indexed.outgoing node id
  · intro c id
    rw [incoming, edges]
    exact indexed.incoming c id
  · rw [edges]
    exact indexed.targeting
  · rw [edges]
    exact indexed.targeted
  · rw [edges]
    exact fun id e he => live _ (indexed.source_live id e he)
  · rw [edges]
    exact fun id e he => live _ (indexed.target_live id e he)
  · rw [edges]
    exact indexed.functions
  · rw [edges]
    exact indexed.callback_injective

namespace SameTree

theorem symm (h : s.SameTree t) : t.SameTree s :=
  ⟨fun d => (h.datums d).symm, fun c => (h.closures c).symm⟩

/-- A datum is in both trees, with the same owner. -/
theorem datum (h : s.SameTree t) {d : DatumId} {y : Datum} (hy : t.datums[d]? = some y) :
    ∃ x, s.datums[d]? = some x ∧ y.owner = x.owner := by
  have same := h.datums d
  rw [hy, Option.map_some] at same
  obtain ⟨x, hx, owner⟩ := Option.map_eq_some_iff.mp same.symm
  exact ⟨x, hx, owner.symm⟩

/-- A closure is in both trees, with the same links. -/
theorem closure (h : s.SameTree t) {c : ClosureId} {y : Closure}
    (hy : t.closures[c]? = some y) : ∃ x, s.closures[c]? = some x ∧ y.parent = x.parent ∧
      y.children = x.children ∧ y.owned = x.owned := by
  have same := h.closures c
  rw [hy, Option.map_some] at same
  obtain ⟨x, hx, place⟩ := Option.map_eq_some_iff.mp same.symm
  simp only [Closure.place, Prod.mk.injEq] at place
  exact ⟨x, hx, place.1.symm, place.2.1.symm, place.2.2.symm⟩

/-- A live node is live in the same tree. -/
theorem contains (h : s.SameTree t) {node : NodeId} (live : s.contains node = true) :
    t.contains node = true := by
  cases node with
  | datum d =>
    obtain ⟨x, hx⟩ := contains_datum.mp live
    obtain ⟨y, hy, _⟩ := h.symm.datum hx
    exact contains_datum.mpr ⟨y, hy⟩
  | closure c =>
    obtain ⟨x, hx⟩ := contains_closure.mp live
    obtain ⟨y, hy, _⟩ := h.symm.closure hx
    exact contains_closure.mpr ⟨y, hy⟩

/-- What is below a closure depends on the tree alone. -/
theorem below (h : s.SameTree t) (c : ClosureId) : t.Below c = s.Below c := by
  have one {s t : State κ} (h : s.SameTree t) {c : ClosureId} {node : NodeId}
      (below : t.Below c node) : s.Below c node := by
    induction below with
    | self hc =>
      obtain ⟨x, hx, _⟩ := h.closure hc
      exact .self hx
    | owned hc hd =>
      obtain ⟨x, hx, _, _, owned⟩ := h.closure hc
      exact .owned hx (owned ▸ hd)
    | child hc hb _ ih =>
      obtain ⟨x, hx, _, children, _⟩ := h.closure hc
      exact .child hx (children ▸ hb) ih
  funext node
  exact propext ⟨one h, one h.symm⟩

/-- A tree that is the same as a forest is a forest. -/
theorem forest (h : s.SameTree t) (forest : s.Forest) : t.Forest := by
  refine ⟨⟨?_, ?_⟩, ⟨?_, ?_⟩, ⟨?_, ?_⟩⟩
  · intro c y hy d hd
    obtain ⟨x, hx, _, _, owned⟩ := h.closure hy
    obtain ⟨z, hz, owner⟩ := forest.sound.owned c x hx d (owned ▸ hd)
    obtain ⟨z', hz', same⟩ := h.symm.datum hz
    exact ⟨z', hz', same ▸ owner⟩
  · intro c y hy b hb
    obtain ⟨x, hx, _, children, _⟩ := h.closure hy
    obtain ⟨younger, z, hz, parent⟩ := forest.sound.children c x hx b (children ▸ hb)
    obtain ⟨z', hz', same, _⟩ := h.symm.closure hz
    exact ⟨younger, z', hz', same ▸ parent⟩
  · intro d z hz c owner
    obtain ⟨z', hz', same⟩ := h.datum hz
    obtain ⟨x, hx, listed⟩ := forest.complete.owner d z' hz' c (same ▸ owner)
    obtain ⟨y, hy, _, _, owned⟩ := h.symm.closure hx
    exact ⟨y, hy, owned ▸ listed⟩
  · intro b z hz c parent
    obtain ⟨z', hz', same, _⟩ := h.closure hz
    obtain ⟨x, hx, listed⟩ := forest.complete.parent b z' hz' c (same ▸ parent)
    obtain ⟨y, hy, _, children, _⟩ := h.symm.closure hx
    exact ⟨y, hy, children ▸ listed⟩
  · intro c y hy
    obtain ⟨x, hx, _, _, owned⟩ := h.closure hy
    exact owned ▸ forest.ascend.owned c x hx
  · intro c y hy
    obtain ⟨x, hx, _, children, _⟩ := h.closure hy
    exact children ▸ forest.ascend.children c x hx

end SameTree

namespace SameLinks

/-- The same subscriptions go out where the links are the same. -/
theorem outgoing (h : s.SameLinks t) (node : NodeId) : t.outgoing node = s.outgoing node := by
  cases node with
  | datum d =>
    have same := congrArg (Option.map Prod.snd) (h.datums d)
    rw [Option.map_map, Option.map_map] at same
    exact congrArg (Option.getD · ∅) same
  | closure c =>
    have same := congrArg (Option.map fun l => l.2.2.2.1) (h.closures c)
    rw [Option.map_map, Option.map_map] at same
    exact congrArg (Option.getD · ∅) same

/-- The same subscriptions come in where the links are the same. -/
theorem incoming (h : s.SameLinks t) (c : ClosureId) : t.incoming c = s.incoming c := by
  have same := congrArg (Option.map fun l => l.2.2.2.2) (h.closures c)
  rw [Option.map_map, Option.map_map] at same
  exact congrArg (Option.getD · ∅) same

/-- The tree is the same where the links are. -/
theorem tree (h : s.SameLinks t) : s.SameTree t := by
  constructor
  · intro d
    have same := congrArg (Option.map Prod.fst) (h.datums d)
    rw [Option.map_map, Option.map_map] at same
    exact same
  · intro c
    have same := congrArg (Option.map fun l => (l.1, l.2.1, l.2.2.1)) (h.closures c)
    rw [Option.map_map, Option.map_map] at same
    exact same

/-- Subscriptions are indexed where the links are the same. -/
theorem edgesIndexed (h : s.SameLinks t) (indexed : s.EdgesIndexed) : t.EdgesIndexed :=
  indexed.transfer h.edges h.outgoing h.incoming fun _ => h.tree.contains

/-- Identities in use were given out where the links are the same, if what is pending was. -/
theorem issued (h : s.SameLinks t) (issued : s.Issued)
    (pending : ∀ id ∈ t.schedule.pending, id.raw < s.counters.subscriptions) : t.Issued := by
  refine ⟨?_, ?_, ?_, ?_, ?_⟩
  · intro d y hy
    obtain ⟨x, hx, _⟩ := h.tree.datum hy
    rw [h.counters]
    exact issued.datums d x hx
  · intro c y hy
    obtain ⟨x, hx, _⟩ := h.tree.closure hy
    rw [h.counters]
    exact issued.closures c x hx
  · rw [h.edges, h.counters]
    exact issued.registered
  · rw [h.edges, h.counters]
    exact issued.callbacks
  · rw [h.counters]
    exact pending

/-- Changes that leave the links alone keep a state consistent. -/
theorem consistent (h : s.SameLinks t) (consistent : s.Consistent)
    (pending : ∀ id ∈ t.schedule.pending, id.raw < s.counters.subscriptions) : t.Consistent :=
  ⟨h.edgesIndexed consistent.indexed, h.tree.forest consistent.forest,
    h.issued consistent.issued pending⟩

end SameLinks

/-! Taking out. -/

/-- Identities in use were given out when nodes are removed. -/
theorem Issued.without (issued : s.Issued) (gone : NodeId → Prop) : (s.without gone).Issued := by
  refine ⟨?_, ?_, ?_, ?_, issued.pending⟩
  · intro d y hy
    obtain ⟨_, x, hx, _⟩ := datums_without_eq_some.mp hy
    exact issued.datums d x hx
  · intro c y hy
    obtain ⟨_, x, hx, _⟩ := closures_without_eq_some.mp hy
    exact issued.closures c x hx
  · intro id e he
    exact issued.registered id e ((EdgeTable.subscriptions_without_eq_some s.edges).mp he).2
  · intro id e he
    exact issued.callbacks id e ((EdgeTable.subscriptions_without_eq_some s.edges).mp he).2

/-- Nodes can be taken out together with all that they list. -/
theorem Consistent.without (consistent : s.Consistent) {gone : NodeId → Prop}
    (cascades : s.Cascades gone) : (s.without gone).Consistent :=
  ⟨consistent.indexed.without gone, consistent.forest.without cascades,
    consistent.issued.without gone⟩

/-- The tree is the same when subscriptions are lost. -/
theorem sameTree_dropEdges (s : State κ) (gone : SubscriptionId → Prop) :
    s.SameTree (s.dropEdges gone) := by
  constructor
  · intro d
    rw [getElem?_datums_dropEdges, Option.map_map]
    rfl
  · intro c
    rw [getElem?_closures_dropEdges, Option.map_map]
    rfl

/-- Subscriptions can be dropped. -/
theorem Consistent.dropEdges (consistent : s.Consistent) (gone : SubscriptionId → Prop) :
    (s.dropEdges gone).Consistent := by
  have tree := s.sameTree_dropEdges gone
  have table {id : SubscriptionId} {e : Subscription}
      (h : (s.dropEdges gone).edges.subscriptions[id]? = some e) :
      s.edges.subscriptions[id]? = some e :=
    ((EdgeTable.subscriptions_without_eq_some s.edges).mp h).2
  refine ⟨consistent.indexed.dropEdges gone, tree.forest consistent.forest, ?_⟩
  refine ⟨?_, ?_, ?_, ?_, consistent.issued.pending⟩
  · intro d y hy
    obtain ⟨x, hx, _⟩ := tree.datum hy
    exact consistent.issued.datums d x hx
  · intro c y hy
    obtain ⟨x, hx, _⟩ := tree.closure hy
    exact consistent.issued.closures c x hx
  · intro id e he
    exact consistent.issued.registered id e (table he)
  · intro id e he
    exact consistent.issued.callbacks id e (table he)

/-- A datum alone can be taken out: it lists nothing. -/
theorem cascades_datum (s : State κ) (d : DatumId) : s.Cascades (· = .datum d) :=
  ⟨fun _ _ _ h => by simp at h, fun _ _ _ h => by simp at h⟩

end State

end ReactiveKernel
