import ReactiveKernel.Proofs.State.Removal

/-!
# What removal keeps

Taking nodes out keeps the indexes of the edges and the soundness of the lists, whatever the
nodes are. It keeps a forest if with every closure its whole subtree goes. Nodes that are not
live cannot be taken out: only the live ones in a set of nodes matter.
-/

namespace ReactiveKernel

variable {κ : Type}

@[simp] theorem SubscriptionSet.without_none (ids : SubscriptionSet) :
    ids.without (fun _ => False) = ids :=
  Std.ExtTreeSet.ext_mem fun id => by simp

/-- A set stays as it is if none of its members is gone. -/
theorem SubscriptionSet.without_eq_self {ids : SubscriptionSet} {gone : SubscriptionId → Prop}
    (h : ∀ id ∈ ids, ¬ gone id) : ids.without gone = ids :=
  Std.ExtTreeSet.ext_mem fun id => by
    rw [mem_without]
    exact ⟨And.left, fun hid => ⟨hid, h id hid⟩⟩

/-- To lose one member is to erase it. -/
theorem SubscriptionSet.without_singleton (ids : SubscriptionSet) (id : SubscriptionId) :
    ids.without (· = id) = ids.erase id :=
  Std.ExtTreeSet.ext_mem fun a => by
    simp only [mem_without, Std.ExtTreeSet.mem_erase, ne_eq,
      Std.LawfulEqCmp.compare_eq_iff_eq]
    constructor
    · rintro ⟨h, ne⟩
      exact ⟨fun eq => ne eq.symm, h⟩
    · rintro ⟨ne, h⟩
      exact ⟨h, fun eq => ne eq.symm⟩

namespace Closure

/-- A closure owns those datums that it has not forgotten. -/
theorem mem_owned_forget {gone : NodeId → Prop} {x : Closure} {d : DatumId} :
    d ∈ (x.forget gone).owned ↔ d ∈ x.owned ∧ ¬ gone (.datum d) := by
  simp [forget]

/-- A closure has those children that it has not forgotten. -/
theorem mem_children_forget {gone : NodeId → Prop} {x : Closure} {b : ClosureId} :
    b ∈ (x.forget gone).children ↔ b ∈ x.children ∧ ¬ gone (.closure b) := by
  simp [forget]

@[simp] theorem forget_none (x : Closure) : x.forget (fun _ => False) = x := by
  simp [forget]

@[simp] theorem unlink_none (x : Closure) : x.unlink (fun _ => False) = x := by
  simp [unlink]

end Closure

@[simp] theorem Datum.unlink_none (x : Datum) : x.unlink (fun _ => False) = x := by
  simp [unlink]

namespace EdgeTable

/-- A callback is kept unless it is an orphan. -/
theorem mem_functions_without {t : EdgeTable κ} {gone : SubscriptionId → Prop}
    {f : FunctionId} : f ∈ (t.without gone).functions ↔ ¬ t.Orphans gone f ∧ f ∈ t.functions := by
  simp only [Std.ExtTreeMap.mem_iff_isSome_getElem?, getElem?_functions_without]
  by_cases h : t.Orphans gone f <;> simp [h]

/-- Where no entry of the index is empty, taking out nothing changes nothing. -/
theorem without_none {t : EdgeTable κ}
    (targeted : ∀ (d : DatumId) (ids : SubscriptionSet), t.datumTargets[d]? = some ids →
      ∃ id, id ∈ ids) : t.without (fun _ => False) = t := by
  have hs : (t.without fun _ => False).subscriptions = t.subscriptions :=
    Std.ExtTreeMap.ext_getElem? fun id => by simp [getElem?_subscriptions_without]
  have hf : (t.without fun _ => False).functions = t.functions :=
    Std.ExtTreeMap.ext_getElem? fun f => by simp [getElem?_functions_without, Orphans]
  have ht : (t.without fun _ => False).datumTargets = t.datumTargets := by
    refine Std.ExtTreeMap.ext_getElem? fun d => ?_
    rw [getElem?_datumTargets_without]
    cases h : t.datumTargets[d]? with
    | none => rfl
    | some ids =>
      have nonempty := SubscriptionSet.isEmpty_eq_false_iff.mpr (targeted d ids h)
      rw [Option.bind_some, SubscriptionSet.without_none, if_neg (by simp only [nonempty]; simp)]
  cases hl : t.without fun _ => False
  cases t
  simp_all

end EdgeTable

namespace State

variable {s : State κ}

/-- A datum is live if there is a record of it. -/
theorem contains_datum {d : DatumId} :
    s.contains (.datum d) = true ↔ ∃ x, s.datums[d]? = some x := by
  simp only [contains, Std.ExtTreeMap.contains_eq_isSome_getElem?, Option.isSome_iff_exists]

/-- A closure is live if there is a record of it. -/
theorem contains_closure {c : ClosureId} :
    s.contains (.closure c) = true ↔ ∃ x, s.closures[c]? = some x := by
  simp only [contains, Std.ExtTreeMap.contains_eq_isSome_getElem?, Option.isSome_iff_exists]

/-! Sets and liveness after a removal. -/

/-- The same nodes are live when subscriptions are lost. -/
theorem contains_dropEdges (gone : SubscriptionId → Prop) (node : NodeId) :
    (s.dropEdges gone).contains node = s.contains node := by
  rw [Bool.eq_iff_iff]
  cases node with
  | datum d => simp [contains_datum, getElem?_datums_dropEdges]
  | closure c => simp [contains_closure, getElem?_closures_dropEdges]

/-- A node is live unless it is gone. -/
theorem contains_dropNodes (gone : NodeId → Prop) (node : NodeId) :
    (s.dropNodes gone).contains node = true ↔ ¬ gone node ∧ s.contains node = true := by
  cases node with
  | datum d =>
    rw [contains_datum, contains_datum, getElem?_datums_dropNodes]
    by_cases h : gone (.datum d) <;> simp [h]
  | closure c =>
    rw [contains_closure, contains_closure, getElem?_closures_dropNodes]
    by_cases h : gone (.closure c) <;> simp [h]

/-- The nodes that are left are those that were not taken out. -/
theorem contains_without (gone : NodeId → Prop) (node : NodeId) :
    (s.without gone).contains node = true ↔ ¬ gone node ∧ s.contains node = true := by
  rw [without, contains_dropNodes, contains_dropEdges]

/-- A subscription goes out from a node unless it is gone. -/
theorem mem_outgoing_dropEdges {gone : SubscriptionId → Prop} {node : NodeId}
    {id : SubscriptionId} :
    id ∈ (s.dropEdges gone).outgoing node ↔ id ∈ s.outgoing node ∧ ¬ gone id := by
  cases node with
  | datum d =>
    simp only [outgoing, getElem?_datums_dropEdges]
    cases s.datums[d]? <;> simp [Datum.unlink]
  | closure c =>
    simp only [outgoing, getElem?_closures_dropEdges]
    cases s.closures[c]? <;> simp [Closure.unlink]

/-- A subscription comes in at a closure unless it is gone. -/
theorem mem_incoming_dropEdges {gone : SubscriptionId → Prop} {c : ClosureId}
    {id : SubscriptionId} :
    id ∈ (s.dropEdges gone).incoming c ↔ id ∈ s.incoming c ∧ ¬ gone id := by
  simp only [incoming, getElem?_closures_dropEdges]
  cases s.closures[c]? <;> simp [Closure.unlink]

/-- Subscriptions go out from a node unless it is gone. -/
theorem mem_outgoing_dropNodes {gone : NodeId → Prop} {node : NodeId} {id : SubscriptionId} :
    id ∈ (s.dropNodes gone).outgoing node ↔ ¬ gone node ∧ id ∈ s.outgoing node := by
  cases node with
  | datum d =>
    simp only [outgoing, getElem?_datums_dropNodes]
    by_cases h : gone (.datum d) <;> simp [h]
  | closure c =>
    simp only [outgoing, getElem?_closures_dropNodes]
    by_cases h : gone (.closure c) <;> simp [h, Function.comp_def, Closure.forget]

/-- Subscriptions come in at a closure unless it is gone. -/
theorem mem_incoming_dropNodes {gone : NodeId → Prop} {c : ClosureId} {id : SubscriptionId} :
    id ∈ (s.dropNodes gone).incoming c ↔ ¬ gone (.closure c) ∧ id ∈ s.incoming c := by
  simp only [incoming, getElem?_closures_dropNodes]
  by_cases h : gone (.closure c) <;> simp [h, Function.comp_def, Closure.forget]

/-! Indexes after a removal. -/

/-- An entry of the index of targets that is left is not empty. -/
theorem targeted_dropEdges {gone : SubscriptionId → Prop} {d : DatumId} {ids : SubscriptionSet}
    (h : (s.dropEdges gone).edges.datumTargets[d]? = some ids) : ∃ id, id ∈ ids := by
  simp only [State.dropEdges, EdgeTable.getElem?_datumTargets_without] at h
  obtain ⟨before, _, kept⟩ := Option.bind_eq_some_iff.mp h
  split at kept
  · cases kept
  · next nonempty =>
    cases kept
    exact SubscriptionSet.isEmpty_eq_false_iff.mp (by simpa using nonempty)

/-- The functions that are left are those of the subscriptions that are left, as no function is
that of two subscriptions. -/
theorem EdgesIndexed.functions_dropEdges (indexed : s.EdgesIndexed)
    {gone : SubscriptionId → Prop} {f : FunctionId} :
    f ∈ (s.dropEdges gone).edges.functions ↔ ∃ (id : SubscriptionId) (e : Subscription),
      (s.dropEdges gone).edges.subscriptions[id]? = some e ∧ e.callback = f := by
  rw [State.dropEdges, EdgeTable.mem_functions_without, indexed.functions]
  simp only [EdgeTable.subscriptions_without_eq_some]
  constructor
  · rintro ⟨kept, id, e, he, hf⟩
    exact ⟨id, e, ⟨fun h => kept ⟨id, e, h, he, hf⟩, he⟩, hf⟩
  · rintro ⟨id, e, ⟨kept, he⟩, hf⟩
    refine ⟨?_, id, e, he, hf⟩
    rintro ⟨id', e', gone', he', hf'⟩
    have same := indexed.callback_injective id id' e e' he he' (hf.trans hf'.symm)
    exact kept (same ▸ gone')

/-- Subscriptions are indexed when some of them are lost. -/
theorem EdgesIndexed.dropEdges (indexed : s.EdgesIndexed) (gone : SubscriptionId → Prop) :
    (s.dropEdges gone).EdgesIndexed := by
  have table {id : SubscriptionId} {e : Subscription} :
      (s.dropEdges gone).edges.subscriptions[id]? = some e ↔
        ¬ gone id ∧ s.edges.subscriptions[id]? = some e :=
    EdgeTable.subscriptions_without_eq_some s.edges
  refine ⟨?_, ?_, ?_, ?_, ?_, ?_, ?_, ?_⟩
  · intro node id
    simp only [mem_outgoing_dropEdges, indexed.outgoing, table]
    tauto
  · intro c id
    simp only [mem_incoming_dropEdges, indexed.incoming, table]
    tauto
  · intro d id
    have here : id ∈ (s.dropEdges gone).edges.targeting d ↔
        id ∈ s.edges.targeting d ∧ ¬ gone id :=
      EdgeTable.mem_targeting_without s.edges
    rw [here, indexed.targeting, State.dropEdges]
    simp only [EdgeTable.subscriptions_without_eq_some]
    tauto
  · intro d ids h
    exact targeted_dropEdges h
  · intro id e h
    rw [contains_dropEdges]
    exact indexed.source_live id e (table.mp h).2
  · intro id e h
    rw [contains_dropEdges]
    exact indexed.target_live id e (table.mp h).2
  · intro f
    exact indexed.functions_dropEdges
  · intro id id' e e' h h' same
    exact indexed.callback_injective id id' e e' (table.mp h).2 (table.mp h').2 same

/-- Subscriptions are indexed when nodes are lost that none of them touches. -/
theorem EdgesIndexed.dropNodes (indexed : s.EdgesIndexed) {gone : NodeId → Prop}
    (untouched : ∀ id, ¬ s.Touches gone id) : (s.dropNodes gone).EdgesIndexed := by
  have kept_source {id : SubscriptionId} {e : Subscription}
      (h : s.edges.subscriptions[id]? = some e) : ¬ gone e.source :=
    fun hg => untouched id ⟨e, h, .inl hg⟩
  have kept_target {id : SubscriptionId} {e : Subscription}
      (h : s.edges.subscriptions[id]? = some e) : ¬ gone e.target :=
    fun hg => untouched id ⟨e, h, .inr hg⟩
  refine ⟨?_, ?_, indexed.targeting, indexed.targeted, ?_, ?_, indexed.functions,
    indexed.callback_injective⟩
  · intro node id
    rw [mem_outgoing_dropNodes, indexed.outgoing]
    constructor
    · rintro ⟨_, h⟩
      exact h
    · rintro ⟨e, he, rfl⟩
      exact ⟨kept_source he, e, he, rfl⟩
  · intro c id
    rw [mem_incoming_dropNodes, indexed.incoming]
    constructor
    · rintro ⟨_, h⟩
      exact h
    · rintro ⟨e, he, ht⟩
      exact ⟨ht ▸ kept_target he, e, he, ht⟩
  · intro id e h
    exact (contains_dropNodes gone _).mpr ⟨kept_source h, indexed.source_live id e h⟩
  · intro id e h
    exact (contains_dropNodes gone _).mpr ⟨kept_target h, indexed.target_live id e h⟩

/-- No subscription is left that touches a node taken out. -/
theorem not_touches_dropEdges (gone : NodeId → Prop) (id : SubscriptionId) :
    ¬ (s.dropEdges (s.Touches gone)).Touches gone id := by
  rintro ⟨e, he, h⟩
  obtain ⟨kept, here⟩ := (EdgeTable.subscriptions_without_eq_some s.edges).mp he
  exact kept ⟨e, here, h⟩

/-- Subscriptions are indexed when nodes are removed. -/
theorem EdgesIndexed.without (indexed : s.EdgesIndexed) (gone : NodeId → Prop) :
    (s.without gone).EdgesIndexed :=
  (indexed.dropEdges _).dropNodes (not_touches_dropEdges gone)

/-! Records and lists after a removal. -/

/-- A datum survives unless it is gone, without the subscriptions that touched what is. -/
theorem datums_without_eq_some {gone : NodeId → Prop} {d : DatumId} {y : Datum} :
    (s.without gone).datums[d]? = some y ↔
      ¬ gone (.datum d) ∧ ∃ x, s.datums[d]? = some x ∧ x.unlink (s.Touches gone) = y := by
  rw [without, getElem?_datums_dropNodes, getElem?_datums_dropEdges]
  by_cases h : gone (.datum d) <;> simp [h]

/-- A closure survives unless it is gone, without the subscriptions that touched what is, and
without what it listed of it. -/
theorem closures_without_eq_some {gone : NodeId → Prop} {c : ClosureId} {y : Closure} :
    (s.without gone).closures[c]? = some y ↔ ¬ gone (.closure c) ∧
      ∃ x, s.closures[c]? = some x ∧ (x.unlink (s.Touches gone)).forget gone = y := by
  rw [without, getElem?_closures_dropNodes, getElem?_closures_dropEdges]
  by_cases h : gone (.closure c) <;> simp [h]

/-- Listed nodes refer back to their closure when nodes are removed. -/
theorem ListsSound.without (sound : s.ListsSound) (gone : NodeId → Prop) :
    (s.without gone).ListsSound := by
  constructor
  · intro c y hy d hd
    obtain ⟨_, x, hx, rfl⟩ := closures_without_eq_some.mp hy
    obtain ⟨listed, kept⟩ := Closure.mem_owned_forget.mp hd
    obtain ⟨z, hz, owner⟩ := sound.owned c x hx d listed
    exact ⟨_, datums_without_eq_some.mpr ⟨kept, z, hz, rfl⟩, owner⟩
  · intro c y hy b hb
    obtain ⟨_, x, hx, rfl⟩ := closures_without_eq_some.mp hy
    obtain ⟨listed, kept⟩ := Closure.mem_children_forget.mp hb
    obtain ⟨younger, z, hz, parent⟩ := sound.children c x hx b listed
    exact ⟨younger, _, closures_without_eq_some.mpr ⟨kept, z, hz, rfl⟩, parent⟩

/-- Lists ascend when nodes are removed. -/
theorem ListsAscend.without (ascend : s.ListsAscend) (gone : NodeId → Prop) :
    (s.without gone).ListsAscend := by
  constructor
  · intro c y hy
    obtain ⟨_, x, hx, rfl⟩ := closures_without_eq_some.mp hy
    exact (ascend.owned c x hx).filter _
  · intro c y hy
    obtain ⟨_, x, hx, rfl⟩ := closures_without_eq_some.mp hy
    exact (ascend.children c x hx).filter _

/-- With every closure in a set of nodes, what it lists is in the set as well. -/
structure Cascades (s : State κ) (gone : NodeId → Prop) : Prop where
  /-- The datums that it owns. -/
  owned : ∀ (c : ClosureId) (x : Closure), s.closures[c]? = some x → gone (.closure c) →
    ∀ d ∈ x.owned, gone (.datum d)
  /-- Its children. -/
  children : ∀ (c : ClosureId) (x : Closure), s.closures[c]? = some x → gone (.closure c) →
    ∀ b ∈ x.children, gone (.closure b)

/-- Nodes are in the lists that they refer to when nodes are removed with all that they list. -/
theorem ListsComplete.without (complete : s.ListsComplete) {gone : NodeId → Prop}
    (cascades : s.Cascades gone) : (s.without gone).ListsComplete := by
  constructor
  · intro d y hy c owner
    obtain ⟨kept, z, hz, rfl⟩ := datums_without_eq_some.mp hy
    obtain ⟨x, hx, listed⟩ := complete.owner d z hz c owner
    have stays : ¬ gone (.closure c) := fun h => kept (cascades.owned c x hx h d listed)
    exact ⟨_, closures_without_eq_some.mpr ⟨stays, x, hx, rfl⟩,
      Closure.mem_owned_forget.mpr ⟨listed, kept⟩⟩
  · intro b y hy c parent
    obtain ⟨kept, z, hz, rfl⟩ := closures_without_eq_some.mp hy
    obtain ⟨x, hx, listed⟩ := complete.parent b z hz c parent
    have stays : ¬ gone (.closure c) := fun h => kept (cascades.children c x hx h b listed)
    exact ⟨_, closures_without_eq_some.mpr ⟨stays, x, hx, rfl⟩,
      Closure.mem_children_forget.mpr ⟨listed, kept⟩⟩

/-- The tree is a forest when nodes are removed with all that they list. -/
theorem Forest.without (forest : s.Forest) {gone : NodeId → Prop} (cascades : s.Cascades gone) :
    (s.without gone).Forest :=
  ⟨forest.sound.without gone, forest.complete.without cascades, forest.ascend.without gone⟩

/-! Which nodes matter. -/

/-- Only the live nodes of a set can be taken out. -/
theorem without_congr (indexed : s.EdgesIndexed) (sound : s.ListsSound) {A B : NodeId → Prop}
    (same : ∀ node, s.contains node = true → (A node ↔ B node)) : s.without A = s.without B := by
  have touched : s.Touches A = s.Touches B := by
    funext id
    refine propext (exists_congr fun e => and_congr_right fun he => ?_)
    exact or_congr (same _ (indexed.source_live id e he)) (same _ (indexed.target_live id e he))
  rw [without, without, touched]
  refine ext_tables rfl rfl ?_ ?_ rfl rfl rfl rfl
  · intro d
    simp only [getElem?_datums_dropNodes, getElem?_datums_dropEdges]
    cases h : s.datums[d]? with
    | none => simp
    | some x =>
      have both := same (.datum d) (contains_datum.mpr ⟨x, h⟩)
      by_cases hA : A (.datum d)
      · simp [hA, both.mp hA]
      · have hB : ¬ B (.datum d) := fun h => hA (both.mpr h)
        simp [hA, hB]
  · intro c
    simp only [getElem?_closures_dropNodes, getElem?_closures_dropEdges]
    cases h : s.closures[c]? with
    | none => simp
    | some x =>
      have listed : (x.unlink (s.Touches B)).forget A = (x.unlink (s.Touches B)).forget B := by
        simp only [Closure.forget]
        congr 1
        · refine List.filter_congr fun b hb => ?_
          obtain ⟨_, y, hy, _⟩ := sound.children c x h b hb
          simp [same (.closure b) (contains_closure.mpr ⟨y, hy⟩)]
        · refine List.filter_congr fun d hd => ?_
          obtain ⟨y, hy, _⟩ := sound.owned c x h d hd
          simp [same (.datum d) (contains_datum.mpr ⟨y, hy⟩)]
      have both := same (.closure c) (contains_closure.mpr ⟨x, h⟩)
      by_cases hA : A (.closure c)
      · simp [hA, both.mp hA]
      · have hB : ¬ B (.closure c) := fun h => hA (both.mpr h)
        simp [hA, hB, listed]

/-- A state that loses no subscription stays as it is. -/
theorem dropEdges_none (indexed : s.EdgesIndexed) : s.dropEdges (fun _ => False) = s := by
  refine ext_tables rfl rfl ?_ ?_ (EdgeTable.without_none indexed.targeted) rfl rfl rfl
  · intro d
    rw [getElem?_datums_dropEdges]
    cases s.datums[d]? <;> simp
  · intro c
    rw [getElem?_closures_dropEdges]
    cases s.closures[c]? <;> simp

/-- A state that loses no node stays as it is. -/
theorem dropNodes_none : s.dropNodes (fun _ => False) = s := by
  refine ext_tables rfl rfl ?_ ?_ rfl rfl rfl rfl
  · intro d
    rw [getElem?_datums_dropNodes]
    simp
  · intro c
    rw [getElem?_closures_dropNodes]
    cases s.closures[c]? <;> simp

/-- A state without nothing is the state. -/
theorem without_none (indexed : s.EdgesIndexed) : s.without (fun _ => False) = s := by
  have untouched : s.Touches (fun _ => False) = fun _ => False := by
    funext id
    simp [Touches]
  rw [without, untouched, dropEdges_none indexed, dropNodes_none]

/-- Taking out nodes that are not live changes nothing. -/
theorem without_dead (indexed : s.EdgesIndexed) (sound : s.ListsSound) {gone : NodeId → Prop}
    (dead : ∀ node, s.contains node = true → ¬ gone node) : s.without gone = s := by
  rw [without_congr indexed sound (B := fun _ => False) fun node h => by simp [dead node h],
    without_none indexed]

end State

end ReactiveKernel
