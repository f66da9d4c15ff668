import ReactiveKernel.Proofs.State.Links

/-!
# States without some of their nodes

A set of nodes is taken out of a state by dropping the subscriptions that touch it, then the
records of the nodes, and every mention of either in the records that stay. Nothing else
changes. Taking out one set after another is the same as taking out both at once.
-/

namespace ReactiveKernel

variable {κ : Type}

open scoped Classical in
/-- The members of a set that are not gone. -/
noncomputable def SubscriptionSet.without (ids : SubscriptionSet)
    (gone : SubscriptionId → Prop) : SubscriptionSet :=
  ids.filter fun id => decide (¬ gone id)

@[simp] theorem SubscriptionSet.mem_without {ids : SubscriptionSet}
    {gone : SubscriptionId → Prop} {id : SubscriptionId} :
    id ∈ ids.without gone ↔ id ∈ ids ∧ ¬ gone id := by
  simp [without]

/-- A datum that does not mention the subscriptions that are gone. -/
noncomputable def Datum.unlink (gone : SubscriptionId → Prop) (d : Datum) : Datum :=
  { d with outgoing := d.outgoing.without gone }

/-- A closure that does not mention the subscriptions that are gone. -/
noncomputable def Closure.unlink (gone : SubscriptionId → Prop) (c : Closure) : Closure :=
  { c with outgoing := c.outgoing.without gone, incoming := c.incoming.without gone }

open scoped Classical in
/-- A closure that does not mention the nodes that are gone. -/
noncomputable def Closure.forget (gone : NodeId → Prop) (c : Closure) : Closure :=
  { c with
    owned := c.owned.filter fun d => decide (¬ gone (.datum d))
    children := c.children.filter fun b => decide (¬ gone (.closure b)) }

namespace EdgeTable

/-- A function is the callback of a subscription that is gone. -/
def Orphans (t : EdgeTable κ) (gone : SubscriptionId → Prop) (f : FunctionId) : Prop :=
  ∃ (id : SubscriptionId) (e : Subscription),
    gone id ∧ t.subscriptions[id]? = some e ∧ e.callback = f

open scoped Classical in
/-- The table without the subscriptions that are gone, and without their callbacks. -/
noncomputable def without (t : EdgeTable κ) (gone : SubscriptionId → Prop) : EdgeTable κ :=
  { subscriptions := t.subscriptions.filter fun id _ => decide (¬ gone id)
    functions := t.functions.filter fun f _ => decide (¬ t.Orphans gone f)
    datumTargets := t.datumTargets.filterMap fun _ ids =>
      if (ids.without gone).isEmpty then none else some (ids.without gone) }

end EdgeTable

namespace State

/-- The state without some of its subscriptions. -/
noncomputable def dropEdges (s : State κ) (gone : SubscriptionId → Prop) : State κ :=
  { s with
    datums := s.datums.map fun _ d => d.unlink gone
    closures := s.closures.map fun _ c => c.unlink gone
    edges := s.edges.without gone }

open scoped Classical in
/-- The state without the records of some of its nodes. -/
noncomputable def dropNodes (s : State κ) (gone : NodeId → Prop) : State κ :=
  { s with
    datums := s.datums.filter fun d _ => decide (¬ gone (.datum d))
    closures := (s.closures.filter fun c _ => decide (¬ gone (.closure c))).map fun _ c =>
      c.forget gone }

/-- A live subscription has an end among the nodes that are gone. -/
def Touches (s : State κ) (gone : NodeId → Prop) (id : SubscriptionId) : Prop :=
  ∃ e, s.edges.subscriptions[id]? = some e ∧ (gone e.source ∨ gone e.target)

/-- The state without some of its nodes and everything that mentions them. -/
noncomputable def without (s : State κ) (gone : NodeId → Prop) : State κ :=
  (s.dropEdges (s.Touches gone)).dropNodes gone

end State

namespace EdgeTable

variable (t : EdgeTable κ)

open scoped Classical in
/-- A subscription is found unless it is gone. -/
theorem getElem?_subscriptions_without (gone : SubscriptionId → Prop) (id : SubscriptionId) :
    (t.without gone).subscriptions[id]? =
      if gone id then none else t.subscriptions[id]? := by
  simp only [without, Std.ExtTreeMap.getElem?_filter']
  cases h : t.subscriptions[id]? with
  | none => simp
  | some e => by_cases hg : gone id <;> simp [hg]

/-- A subscription that is found is not gone and was there before. -/
theorem subscriptions_without_eq_some {gone : SubscriptionId → Prop} {id : SubscriptionId}
    {e : Subscription} :
    (t.without gone).subscriptions[id]? = some e ↔
      ¬ gone id ∧ t.subscriptions[id]? = some e := by
  rw [getElem?_subscriptions_without]
  by_cases h : gone id <;> simp [h]

open scoped Classical in
/-- A callback is found unless it is an orphan. -/
theorem getElem?_functions_without (gone : SubscriptionId → Prop) (f : FunctionId) :
    (t.without gone).functions[f]? =
      if t.Orphans gone f then none else t.functions[f]? := by
  simp only [without, Std.ExtTreeMap.getElem?_filter']
  cases h : t.functions[f]? with
  | none => simp
  | some e => by_cases hg : t.Orphans gone f <;> simp [hg]

open scoped Classical in
/-- An entry of the index by target loses those that are gone, and is gone when it is empty. -/
theorem getElem?_datumTargets_without (gone : SubscriptionId → Prop) (d : DatumId) :
    (t.without gone).datumTargets[d]? = (t.datumTargets[d]?).bind fun ids =>
      if (ids.without gone).isEmpty then none else some (ids.without gone) := by
  simp only [without, Std.ExtTreeMap.getElem?_filterMap']

/-- A subscription comes in at a datum unless it is gone. -/
theorem mem_targeting_without {gone : SubscriptionId → Prop} {d : DatumId}
    {id : SubscriptionId} :
    id ∈ (t.without gone).targeting d ↔ id ∈ t.targeting d ∧ ¬ gone id := by
  simp only [targeting, getElem?_datumTargets_without]
  cases h : t.datumTargets[d]? with
  | none => simp
  | some ids =>
    simp only [Option.bind_some]
    split
    · next empty =>
      have none_left := SubscriptionSet.isEmpty_iff.mp empty id
      simpa using none_left
    · simp

end EdgeTable

namespace State

variable {s : State κ}

/-- The record of a datum loses the subscriptions that are gone. -/
theorem getElem?_datums_dropEdges (gone : SubscriptionId → Prop) (d : DatumId) :
    (s.dropEdges gone).datums[d]? = (s.datums[d]?).map (Datum.unlink gone) := by
  simp [dropEdges]

/-- The record of a closure loses the subscriptions that are gone. -/
theorem getElem?_closures_dropEdges (gone : SubscriptionId → Prop) (c : ClosureId) :
    (s.dropEdges gone).closures[c]? = (s.closures[c]?).map (Closure.unlink gone) := by
  simp [dropEdges]

open scoped Classical in
/-- A datum is found unless it is gone. -/
theorem getElem?_datums_dropNodes (gone : NodeId → Prop) (d : DatumId) :
    (s.dropNodes gone).datums[d]? = if gone (.datum d) then none else s.datums[d]? := by
  simp only [dropNodes, Std.ExtTreeMap.getElem?_filter']
  cases h : s.datums[d]? with
  | none => simp
  | some e => by_cases hg : gone (.datum d) <;> simp [hg]

open scoped Classical in
/-- A closure is found unless it is gone, and its record forgets the nodes that are. -/
theorem getElem?_closures_dropNodes (gone : NodeId → Prop) (c : ClosureId) :
    (s.dropNodes gone).closures[c]? =
      if gone (.closure c) then none else (s.closures[c]?).map (Closure.forget gone) := by
  simp only [dropNodes, Std.ExtTreeMap.getElem?_map, Std.ExtTreeMap.getElem?_filter']
  cases h : s.closures[c]? with
  | none => simp
  | some e => by_cases hg : gone (.closure c) <;> simp [hg]

end State

/-! Taking out twice. -/

/-- To lose some members and then others is to lose all of them at once. -/
theorem SubscriptionSet.without_without (ids : SubscriptionSet) (A B : SubscriptionId → Prop) :
    (ids.without A).without B = ids.without fun id => A id ∨ B id := by
  refine Std.ExtTreeSet.ext_mem fun id => ?_
  simp only [mem_without, not_or, and_assoc]

/-- A datum that loses some subscriptions and then others loses all of them at once. -/
theorem Datum.unlink_unlink (A B : SubscriptionId → Prop) (d : Datum) :
    (d.unlink A).unlink B = d.unlink fun id => A id ∨ B id := by
  simp only [unlink, SubscriptionSet.without_without]

/-- A closure that loses some subscriptions and then others loses all of them at once. -/
theorem Closure.unlink_unlink (A B : SubscriptionId → Prop) (c : Closure) :
    (c.unlink A).unlink B = c.unlink fun id => A id ∨ B id := by
  simp only [unlink, SubscriptionSet.without_without]

/-- A closure that forgets some nodes and then others forgets all of them at once. -/
theorem Closure.forget_forget (A B : NodeId → Prop) (c : Closure) :
    (c.forget A).forget B = c.forget fun node => A node ∨ B node := by
  simp only [forget, List.filter_filter]
  congr 1
  · refine List.filter_congr fun b _ => ?_
    by_cases hA : A (.closure b) <;> simp [hA]
  · refine List.filter_congr fun d _ => ?_
    by_cases hA : A (.datum d) <;> simp [hA]

namespace EdgeTable

/-- A callback is an orphan of two losses if it is one of the first or, after that, of the second.
-/
theorem orphans_without (t : EdgeTable κ) (A B : SubscriptionId → Prop) (f : FunctionId) :
    t.Orphans (fun id => A id ∨ B id) f ↔ t.Orphans A f ∨ (t.without A).Orphans B f := by
  constructor
  · rintro ⟨id, e, gone, he, hf⟩
    by_cases hA : A id
    · exact .inl ⟨id, e, hA, he, hf⟩
    · refine .inr ⟨id, e, gone.resolve_left hA, ?_, hf⟩
      exact (subscriptions_without_eq_some t).mpr ⟨hA, he⟩
  · rintro (⟨id, e, gone, he, hf⟩ | ⟨id, e, gone, he, hf⟩)
    · exact ⟨id, e, .inl gone, he, hf⟩
    · exact ⟨id, e, .inr gone, ((subscriptions_without_eq_some t).mp he).2, hf⟩

/-- A table that loses some subscriptions and then others loses all of them at once. -/
theorem without_without (t : EdgeTable κ) (A B : SubscriptionId → Prop) :
    (t.without A).without B = t.without fun id => A id ∨ B id := by
  have hs : ((t.without A).without B).subscriptions =
      (t.without fun id => A id ∨ B id).subscriptions := by
    refine Std.ExtTreeMap.ext_getElem? fun id => ?_
    simp only [getElem?_subscriptions_without]
    by_cases hA : A id <;> by_cases hB : B id <;> simp [hA, hB]
  have hf : ((t.without A).without B).functions =
      (t.without fun id => A id ∨ B id).functions := by
    refine Std.ExtTreeMap.ext_getElem? fun f => ?_
    have both := orphans_without t A B f
    simp only [getElem?_functions_without]
    by_cases hA : t.Orphans A f <;> by_cases hB : (t.without A).Orphans B f <;>
      simp only [hA, hB, or_true, or_false, iff_true, iff_false] at both <;>
      simp [hA, hB, both]
  have ht : ((t.without A).without B).datumTargets =
      (t.without fun id => A id ∨ B id).datumTargets := by
    refine Std.ExtTreeMap.ext_getElem? fun d => ?_
    simp only [getElem?_datumTargets_without]
    cases h : t.datumTargets[d]? with
    | none => rfl
    | some ids =>
      simp only [Option.bind_some]
      by_cases empty : (ids.without A).isEmpty
      · have all : (ids.without fun id => A id ∨ B id).isEmpty = true := by
          rw [SubscriptionSet.isEmpty_iff] at empty ⊢
          intro id hid
          rw [SubscriptionSet.mem_without, not_or] at hid
          exact empty id (SubscriptionSet.mem_without.mpr ⟨hid.1, hid.2.1⟩)
        simp [empty, all]
      · simp [empty, SubscriptionSet.without_without]
  cases hl : (t.without A).without B
  cases hr : t.without fun id => A id ∨ B id
  simp_all

end EdgeTable

namespace State

variable (s : State κ)

/-- A state that loses some subscriptions and then others loses all of them at once. -/
theorem dropEdges_dropEdges (A B : SubscriptionId → Prop) :
    (s.dropEdges A).dropEdges B = s.dropEdges fun id => A id ∨ B id := by
  refine ext_tables rfl rfl ?_ ?_ (s.edges.without_without A B) rfl rfl rfl
  · intro d
    simp only [getElem?_datums_dropEdges, Option.map_map]
    exact congrArg (Option.map · _) (funext fun x => x.unlink_unlink A B)
  · intro c
    simp only [getElem?_closures_dropEdges, Option.map_map]
    exact congrArg (Option.map · _) (funext fun x => x.unlink_unlink A B)

/-- A state that loses some nodes and then others loses all of them at once. -/
theorem dropNodes_dropNodes (A B : NodeId → Prop) :
    (s.dropNodes A).dropNodes B = s.dropNodes fun node => A node ∨ B node := by
  refine ext_tables rfl rfl ?_ ?_ rfl rfl rfl rfl
  · intro d
    simp only [getElem?_datums_dropNodes]
    by_cases hA : A (.datum d) <;> by_cases hB : B (.datum d) <;> simp [hA, hB]
  · intro c
    simp only [getElem?_closures_dropNodes]
    by_cases hA : A (.closure c) <;> by_cases hB : B (.closure c) <;>
      simp [hA, hB, Function.comp_def, Closure.forget_forget]

/-- It does not matter whether nodes or subscriptions are lost first. -/
theorem dropNodes_dropEdges (A : NodeId → Prop) (B : SubscriptionId → Prop) :
    (s.dropNodes A).dropEdges B = (s.dropEdges B).dropNodes A := by
  refine ext_tables rfl rfl ?_ ?_ rfl rfl rfl rfl
  · intro d
    simp only [getElem?_datums_dropNodes, getElem?_datums_dropEdges]
    by_cases hA : A (.datum d) <;> simp [hA]
  · intro c
    simp only [getElem?_closures_dropNodes, getElem?_closures_dropEdges]
    by_cases hA : A (.closure c) <;>
      simp [hA, Function.comp_def, Closure.unlink, Closure.forget]

/-- What touches the second set once the first one is out touches only the second set. -/
theorem touches_without (A B : NodeId → Prop) (id : SubscriptionId) :
    s.Touches (fun node => A node ∨ B node) id ↔ s.Touches A id ∨ (s.without A).Touches B id := by
  constructor
  · rintro ⟨e, he, gone⟩
    by_cases hA : s.Touches A id
    · exact .inl hA
    · have kept : (s.without A).edges.subscriptions[id]? = some e :=
        (EdgeTable.subscriptions_without_eq_some s.edges).mpr ⟨hA, he⟩
      have outside : ¬ (A e.source ∨ A e.target) := fun h => hA ⟨e, he, h⟩
      exact .inr ⟨e, kept, by tauto⟩
  · rintro (⟨e, he, gone⟩ | ⟨e, he, gone⟩)
    · exact ⟨e, he, by tauto⟩
    · have here := ((EdgeTable.subscriptions_without_eq_some s.edges).mp he).2
      exact ⟨e, here, by tauto⟩

/-- Taking out one set after another is taking out both. -/
theorem without_without (A B : NodeId → Prop) :
    (s.without A).without B = s.without fun node => A node ∨ B node := by
  have touched : s.Touches (fun node => A node ∨ B node) =
      fun id => s.Touches A id ∨ (s.without A).Touches B id :=
    funext fun id => propext (s.touches_without A B id)
  calc (s.without A).without B
      = (((s.dropEdges (s.Touches A)).dropNodes A).dropEdges
          ((s.without A).Touches B)).dropNodes B := rfl
    _ = (((s.dropEdges (s.Touches A)).dropEdges
          ((s.without A).Touches B)).dropNodes A).dropNodes B := by rw [dropNodes_dropEdges]
    _ = s.without fun node => A node ∨ B node := by
        rw [dropEdges_dropEdges, dropNodes_dropNodes, ← touched]
        rfl

end State

end ReactiveKernel
