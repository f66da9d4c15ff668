import ReactiveKernel.Proofs.Effect.Consistency

/-!
# Undoing what was made

Taking out what has just been made gives back the nodes and the subscriptions that were there
before. Counters and the schedule are not given back.
-/

namespace ReactiveKernel

variable {κ : Type}

/-- A new member is taken out again. -/
theorem SubscriptionSet.erase_insert_new {ids : SubscriptionSet} {id : SubscriptionId}
    (new : id ∉ ids) : (ids.insert id).erase id = ids := by
  refine Std.ExtTreeSet.ext_mem fun a => ?_
  by_cases same : id = a
  · subst same
    simp [new]
  · simp [same]

/-- A new entry is taken out again. -/
theorem erase_insert_new {α β : Type} [Ord α] [Std.TransOrd α] [Std.LawfulEqOrd α]
    {m : Std.ExtTreeMap α β} {a : α} (free : m[a]? = none) (b : β) :
    (m.insert a b).erase a = m := by
  refine Std.ExtTreeMap.ext_getElem? fun x => ?_
  by_cases same : a = x
  · subst same
    simp [free]
  · simp [Std.ExtTreeMap.getElem?_erase, Std.ExtTreeMap.getElem?_insert, same]

/-- A subscription that is added to the index of targets and dropped again leaves no trace. An index
with an empty entry would lose it. -/
theorem EdgeTable.dropTarget_addTarget {t : EdgeTable κ} {id : SubscriptionId}
    (new : ∀ d, id ∉ t.targeting d)
    (nonempty : ∀ (d : DatumId) (ids : SubscriptionSet), t.datumTargets[d]? = some ids →
      ∃ id, id ∈ ids)
    (target : NodeId) :
    dropTarget (addTarget t.datumTargets id target) id target = t.datumTargets := by
  cases target with
  | closure c => rfl
  | datum d =>
    have cancel := SubscriptionSet.erase_insert_new (new d)
    have found : (addTarget t.datumTargets id (.datum d))[d]? = some ((t.targeting d).insert id) :=
      Std.ExtTreeMap.getElem?_insert_self
    simp only [dropTarget, found, cancel]
    cases h : t.datumTargets[d]? with
    | none =>
      have nothing : t.targeting d = ∅ := by simp [targeting, h]
      rw [nothing, if_pos Std.ExtTreeSet.isEmpty_empty]
      exact erase_insert_new h _
    | some ids =>
      have those : t.targeting d = ids := by simp [targeting, h]
      have kept : ids.isEmpty = false := SubscriptionSet.isEmpty_eq_false_iff.mpr (nonempty d ids h)
      rw [those, kept]
      refine Std.ExtTreeMap.ext_getElem? fun b => ?_
      by_cases same : d = b
      · subst same
        simp [h]
      · simp [addTarget, Std.ExtTreeMap.getElem?_insert, same]

namespace State

/-- The second state has the same nodes and subscriptions. -/
structure SameTables (s t : State κ) : Prop where
  /-- The same datums. -/
  datums : t.datums = s.datums
  /-- The same closures. -/
  closures : t.closures = s.closures
  /-- The same subscriptions and callbacks. -/
  edges : t.edges = s.edges

variable {s t u : State κ} {gone : NodeId → Prop}

namespace SameTables

theorem refl (s : State κ) : s.SameTables s := ⟨rfl, rfl, rfl⟩

theorem trans (h : s.SameTables t) (h' : t.SameTables u) : s.SameTables u :=
  ⟨h'.datums.trans h.datums, h'.closures.trans h.closures, h'.edges.trans h.edges⟩

/-- States that are equal have the same tables. -/
theorem of_eq (h : s = t) : s.SameTables t := h ▸ refl s

/-- Which subscriptions touch some nodes is determined by the tables. -/
theorem touches (h : s.SameTables t) (gone : NodeId → Prop) : t.Touches gone = s.Touches gone := by
  funext id
  simp only [Touches, h.edges]

/-- The tables alone determine which tables are left. -/
theorem without (h : s.SameTables t) (gone : NodeId → Prop) :
    (s.without gone).SameTables (t.without gone) := by
  refine ⟨?_, ?_, ?_⟩ <;>
    simp only [State.without, dropNodes, dropEdges, h.touches, h.datums, h.closures, h.edges]

/-- The tree is determined by the tables. -/
theorem tree (h : s.SameTables t) : s.SameTree t :=
  ⟨fun d => by rw [h.datums], fun c => by rw [h.closures]⟩

/-- What is below a closure is determined by the tables. -/
theorem below (h : s.SameTables t) (c : ClosureId) : t.Below c = s.Below c := h.tree.below c

end SameTables

/-- States that differ only in nodes that are taken out are then the same. -/
theorem sameTables_without (edges : t.edges = s.edges)
    (datums : ∀ d : DatumId, ¬ gone (.datum d) → t.datums[d]? = s.datums[d]?)
    (closures : ∀ c : ClosureId, ¬ gone (.closure c) → t.closures[c]? = s.closures[c]?) :
    (s.without gone).SameTables (t.without gone) := by
  have touches : t.Touches gone = s.Touches gone := by
    funext id
    simp only [Touches, edges]
  refine ⟨Std.ExtTreeMap.ext_getElem? fun d => ?_, Std.ExtTreeMap.ext_getElem? fun c => ?_, ?_⟩
  · simp only [without, getElem?_datums_dropNodes, getElem?_datums_dropEdges, touches]
    by_cases h : gone (.datum d)
    · simp [h]
    · simp [h, datums d h]
  · simp only [without, getElem?_closures_dropNodes, getElem?_closures_dropEdges, touches]
    by_cases h : gone (.closure c)
    · simp [h]
    · simp [h, closures c h]
  · change t.edges.without (t.Touches gone) = s.edges.without (s.Touches gone)
    rw [edges, touches]

/-- Nodes that no subscription touches are taken out alone. -/
theorem without_untouched (indexed : s.EdgesIndexed) (untouched : ∀ id, ¬ s.Touches gone id) :
    s.without gone = s.dropNodes gone := by
  have none_touched : s.Touches gone = fun _ => False := by
    funext id
    exact eq_false (untouched id)
  rw [without, none_touched, dropEdges_none indexed]

/-- No subscription touches a node that is dead. -/
theorem EdgesIndexed.untouched_dead (indexed : s.EdgesIndexed) {node : NodeId}
    (dead : s.contains node = false) (id : SubscriptionId) : ¬ s.Touches (· = node) id := by
  rintro ⟨e, he, rfl | rfl⟩
  · exact Bool.eq_false_iff.mp dead (indexed.source_live id e he)
  · exact Bool.eq_false_iff.mp dead (indexed.target_live id e he)

/-- A list does not change when what is not in it is taken out. -/
theorem filter_ne_new {α : Type} [DecidableEq α] {l : List α} {a : α} (new : a ∉ l) :
    l.filter (· != a) = l :=
  List.filter_eq_self.mpr fun b hb => by simpa using fun eq : b = a => new (eq ▸ hb)

/-- A new datum is undone by taking it out. -/
theorem sameTables_addDatum (consistent : s.Consistent) (typeName : String) (content : Content)
    {owner : Option ClosureId} (live : s.HolderLive owner) :
    s.SameTables ((s.addDatum typeName content owner).without (· = .datum s.nextDatum)) := by
  have free := consistent.issued.nextDatum_dead
  have dead : s.contains (.datum s.nextDatum) = false := by
    simp [contains, Std.ExtTreeMap.contains_eq_isSome_getElem?, free]
  have untouched : ∀ id, ¬ (s.addDatum typeName content owner).Touches
      (· = .datum s.nextDatum) id := consistent.indexed.untouched_dead dead
  rw [without_untouched (consistent.addDatum typeName content live).indexed untouched]
  refine ⟨Std.ExtTreeMap.ext_getElem? fun d => ?_, Std.ExtTreeMap.ext_getElem? fun c => ?_, rfl⟩
  · rw [getElem?_datums_dropNodes, getElem?_datums_addDatum]
    by_cases h : s.nextDatum = d
    · subst h
      simp [free]
    · have h' : ¬ d = s.nextDatum := fun eq => h eq.symm
      simp [h, h']
  · rw [getElem?_closures_dropNodes, getElem?_closures_addDatum]
    cases hx : s.closures[c]? with
    | none => simp
    | some x =>
      have unlisted : s.nextDatum ∉ x.owned := by
        intro listed
        obtain ⟨y, hy, _⟩ := consistent.forest.sound.owned c x hx _ listed
        rw [free] at hy
        cases hy
      have same := filter_ne_new unlisted
      simp only [reduceCtorEq, if_false, Option.map_some, Option.some.injEq, Closure.forget_datum]
      split <;> simp [List.filter_append, same]

/-- A new closure is undone by taking it out. -/
theorem sameTables_addClosure (consistent : s.Consistent) (template : String)
    {parent : Option ClosureId} (live : s.HolderLive parent) :
    s.SameTables ((s.addClosure template parent).without (· = .closure s.nextClosure)) := by
  have free := consistent.issued.nextClosure_dead
  have dead : s.contains (.closure s.nextClosure) = false := by
    simp [contains, Std.ExtTreeMap.contains_eq_isSome_getElem?, free]
  have untouched : ∀ id, ¬ (s.addClosure template parent).Touches
      (· = .closure s.nextClosure) id := consistent.indexed.untouched_dead dead
  rw [without_untouched (consistent.addClosure template live).indexed untouched]
  refine ⟨Std.ExtTreeMap.ext_getElem? fun d => ?_, Std.ExtTreeMap.ext_getElem? fun c => ?_, rfl⟩
  · rw [getElem?_datums_dropNodes]
    simp [addClosure]
  · rw [getElem?_closures_dropNodes, getElem?_closures_addClosure]
    by_cases new : s.nextClosure = c
    · subst new
      simp [free]
    · have new' : ¬ c = s.nextClosure := fun eq => new eq.symm
      cases hx : s.closures[c]? with
      | none => simp [new]
      | some x =>
        have unlisted : s.nextClosure ∉ x.children := by
          intro listed
          obtain ⟨_, y, hy, _⟩ := consistent.forest.sound.children c x hx _ listed
          rw [free] at hy
          cases hy
        have same := filter_ne_new unlisted
        simp only [NodeId.closure.injEq, new, new', if_false, Option.map_some, Option.some.injEq,
          Closure.forget_closure]
        split <;> simp [List.filter_append, same]

/-- A subscription that was inserted and erased leaves no trace in the table of edges. -/
theorem edges_erase_insert (consistent : s.Consistent) (source target : NodeId)
    (selector : Selector) (code : κ) :
    let e : Subscription := ⟨source, target, selector, s.nextFunction⟩
    (s.edges.insert s.nextSubscription e code).erase s.nextSubscription e = s.edges := by
  intro e
  have unused : s.nextFunction ∉ s.edges.functions := by
    intro used
    obtain ⟨id, e', he, callback⟩ := (consistent.indexed.functions _).mp used
    exact consistent.issued.callback_addEdge he callback
  have unlisted (d : DatumId) : s.nextSubscription ∉ s.edges.targeting d := by
    intro listed
    obtain ⟨e', he, _⟩ := (consistent.indexed.targeting d _).mp listed
    rw [consistent.issued.nextSubscription_free] at he
    cases he
  have subscriptions := erase_insert_new consistent.issued.nextSubscription_free e
  have functions := erase_insert_new (Std.ExtTreeMap.getElem?_eq_none unused) code
  have targets := EdgeTable.dropTarget_addTarget unlisted consistent.indexed.targeted target
  simp only [EdgeTable.erase, EdgeTable.insert, subscriptions, functions, e, targets]

/-- A new subscription is undone by dropping it. -/
theorem sameTables_addEdge (consistent : s.Consistent) {source target : NodeId}
    (source_live : s.contains source = true) (target_live : s.contains target = true)
    (selector : Selector) (code : κ) :
    s.SameTables ((s.addEdge source target selector code).dropEdges (· = s.nextSubscription)) := by
  let t := s.addEdge source target selector code
  have indexed : t.EdgesIndexed :=
    (consistent.addEdge source_live target_live selector code).indexed
  have here : t.edges.subscriptions[s.nextSubscription]? =
      some ⟨source, target, selector, s.nextFunction⟩ := by
    rw [getElem?_subscriptions_addEdge, if_pos rfl]
  have unlisted {ids : SubscriptionSet} (registered : ∀ id ∈ ids, ∃ e : Subscription,
      s.edges.subscriptions[id]? = some e) : s.nextSubscription ∉ ids := by
    intro listed
    obtain ⟨e, he⟩ := registered _ listed
    rw [consistent.issued.nextSubscription_free] at he
    cases he
  change s.SameTables (t.dropEdges (· = s.nextSubscription))
  rw [← unlinkEdge_eq_dropEdges indexed here, unlinkEdge_eq]
  refine ⟨Std.ExtTreeMap.ext_getElem? fun d => ?_, Std.ExtTreeMap.ext_getElem? fun c => ?_,
    edges_erase_insert consistent source target selector code⟩
  · have entry := s.getElem?_datums_atEnds source target (·.insert s.nextSubscription) d
    change (t.atEnds source target (·.erase s.nextSubscription)).datums[d]? = _
    rw [getElem?_datums_atEnds, show t.datums[d]? = _ from entry]
    cases hx : s.datums[d]? with
    | none => rfl
    | some x =>
      have new : s.nextSubscription ∉ x.outgoing := unlisted fun id hid => by
        obtain ⟨e, he, _⟩ := (consistent.indexed.outgoing (.datum d) id).mp
          ((outgoing_datum hx).symm ▸ hid)
        exact ⟨e, he⟩
      have cancel := SubscriptionSet.erase_insert_new new
      by_cases starts : source = .datum d
      · simp [starts, cancel]
      · simp [starts]
  · have entry := s.getElem?_closures_atEnds source target (·.insert s.nextSubscription) c
    change (t.atEnds source target (·.erase s.nextSubscription)).closures[c]? = _
    rw [getElem?_closures_atEnds, show t.closures[c]? = _ from entry]
    cases hx : s.closures[c]? with
    | none => rfl
    | some x =>
      have new : s.nextSubscription ∉ x.outgoing := unlisted fun id hid => by
        obtain ⟨e, he, _⟩ := (consistent.indexed.outgoing (.closure c) id).mp
          ((outgoing_closure hx).symm ▸ hid)
        exact ⟨e, he⟩
      have new' : s.nextSubscription ∉ x.incoming := unlisted fun id hid => by
        obtain ⟨e, he, _⟩ := (consistent.indexed.incoming c id).mp
          ((incoming_closure hx).symm ▸ hid)
        exact ⟨e, he⟩
      have cancel := SubscriptionSet.erase_insert_new new
      have cancel' := SubscriptionSet.erase_insert_new new'
      by_cases starts : source = .closure c <;> by_cases ends : target = .closure c <;>
        simp [starts, ends, cancel, cancel']

end State

end ReactiveKernel
