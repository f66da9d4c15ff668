import ReactiveKernel.Proofs.State.Severance

/-!
# Removing subscriptions

Removing a subscription takes it from the table, from the sets of its two ends and from the
index of targets. In a state whose indexes agree nothing else mentions it, so what is left is
the state without that subscription.
-/

namespace ReactiveKernel

variable {κ : Type}

namespace State

variable {s : State κ}

/-- What goes out from a live datum is in its record. -/
theorem outgoing_datum {d : DatumId} {x : Datum} (h : s.datums[d]? = some x) :
    s.outgoing (.datum d) = x.outgoing := by
  simp [outgoing, h]

/-- What goes out from a live closure is in its record. -/
theorem outgoing_closure {c : ClosureId} {x : Closure} (h : s.closures[c]? = some x) :
    s.outgoing (.closure c) = x.outgoing := by
  simp [outgoing, h]

/-- What comes in at a live closure is in its record. -/
theorem incoming_closure {c : ClosureId} {x : Closure} (h : s.closures[c]? = some x) :
    s.incoming c = x.incoming := by
  simp [incoming, h]

/-- What comes in at a datum is in the index by target. -/
theorem targeting_datum {d : DatumId} {ids : SubscriptionSet}
    (h : s.edges.datumTargets[d]? = some ids) : s.edges.targeting d = ids := by
  simp [EdgeTable.targeting, h]

/-- A set loses those of its members that are gone. -/
theorem SubscriptionSet.without_congr {ids : SubscriptionSet} {A B : SubscriptionId → Prop}
    (same : ∀ id ∈ ids, A id ↔ B id) : ids.without A = ids.without B := by
  refine Std.ExtTreeSet.ext_mem fun id => ?_
  simp only [SubscriptionSet.mem_without]
  exact and_congr_right fun hid => not_congr (same id hid)

section

variable {A B : SubscriptionId → Prop}

/-- Which callbacks are orphans depends on which registered subscriptions are gone. -/
theorem orphans_congr {t : EdgeTable κ}
    (same : ∀ (id : SubscriptionId) (e : Subscription),
      t.subscriptions[id]? = some e → (A id ↔ B id)) (f : FunctionId) :
    t.Orphans A f ↔ t.Orphans B f := by
  refine exists_congr fun id => exists_congr fun e => ?_
  constructor
  · rintro ⟨gone, he, hf⟩
    exact ⟨(same id e he).mp gone, he, hf⟩
  · rintro ⟨gone, he, hf⟩
    exact ⟨(same id e he).mpr gone, he, hf⟩

/-- Only registered subscriptions can be dropped from the table. -/
theorem edges_without_congr (indexed : s.EdgesIndexed)
    (same : ∀ (id : SubscriptionId) (e : Subscription),
      s.edges.subscriptions[id]? = some e → (A id ↔ B id)) :
    s.edges.without A = s.edges.without B := by
  have hs : (s.edges.without A).subscriptions = (s.edges.without B).subscriptions := by
    refine Std.ExtTreeMap.ext_getElem? fun id => ?_
    simp only [EdgeTable.getElem?_subscriptions_without]
    cases he : s.edges.subscriptions[id]? with
    | none => simp
    | some e =>
      by_cases gone : A id
      · rw [if_pos gone, if_pos ((same id e he).mp gone)]
      · rw [if_neg gone, if_neg fun gone' => gone ((same id e he).mpr gone')]
  have hf : (s.edges.without A).functions = (s.edges.without B).functions := by
    refine Std.ExtTreeMap.ext_getElem? fun f => ?_
    simp only [EdgeTable.getElem?_functions_without]
    by_cases orphan : s.edges.Orphans A f
    · rw [if_pos orphan, if_pos ((orphans_congr same f).mp orphan)]
    · rw [if_neg orphan, if_neg fun orphan' => orphan ((orphans_congr same f).mpr orphan')]
  have ht : (s.edges.without A).datumTargets = (s.edges.without B).datumTargets := by
    refine Std.ExtTreeMap.ext_getElem? fun d => ?_
    simp only [EdgeTable.getElem?_datumTargets_without]
    cases h : s.edges.datumTargets[d]? with
    | none => rfl
    | some ids =>
      have kept : ids.without A = ids.without B := SubscriptionSet.without_congr fun id hid => by
        rw [← targeting_datum h, indexed.targeting] at hid
        obtain ⟨e, he, _⟩ := hid
        exact same id e he
      simp only [Option.bind_some, kept]
  cases hl : s.edges.without A
  cases hr : s.edges.without B
  simp_all

/-- Only registered subscriptions can be dropped. -/
theorem dropEdges_congr (indexed : s.EdgesIndexed)
    (same : ∀ (id : SubscriptionId) (e : Subscription),
      s.edges.subscriptions[id]? = some e → (A id ↔ B id)) : s.dropEdges A = s.dropEdges B := by
  have outgoing (node : NodeId) (id : SubscriptionId) (hid : id ∈ s.outgoing node) :
      A id ↔ B id := by
    obtain ⟨e, he, _⟩ := (indexed.outgoing node id).mp hid
    exact same id e he
  have incoming (c : ClosureId) (id : SubscriptionId) (hid : id ∈ s.incoming c) :
      A id ↔ B id := by
    obtain ⟨e, he, _⟩ := (indexed.incoming c id).mp hid
    exact same id e he
  refine ext_tables rfl rfl ?_ ?_ (edges_without_congr indexed same) rfl rfl rfl
  · intro d
    rw [getElem?_datums_dropEdges, getElem?_datums_dropEdges]
    cases h : s.datums[d]? with
    | none => rfl
    | some x =>
      have kept : x.outgoing.without A = x.outgoing.without B :=
        SubscriptionSet.without_congr (outgoing_datum h ▸ outgoing (.datum d))
      simp only [Option.map_some, Datum.unlink, kept]
  · intro c
    rw [getElem?_closures_dropEdges, getElem?_closures_dropEdges]
    cases h : s.closures[c]? with
    | none => rfl
    | some x =>
      have kept : x.outgoing.without A = x.outgoing.without B :=
        SubscriptionSet.without_congr (outgoing_closure h ▸ outgoing (.closure c))
      have kept' : x.incoming.without A = x.incoming.without B :=
        SubscriptionSet.without_congr (incoming_closure h ▸ incoming c)
      simp only [Option.map_some, Closure.unlink, kept, kept']

end

/-! Removing subscriptions. -/

/-- The entry of a datum at which a subscription does not end stays as it is. -/
theorem targets_without_other (indexed : s.EdgesIndexed) {id : SubscriptionId} {d : DatumId}
    (h : id ∉ s.edges.targeting d) :
    (s.edges.without (· = id)).datumTargets[d]? = s.edges.datumTargets[d]? := by
  rw [EdgeTable.getElem?_datumTargets_without]
  cases hd : s.edges.datumTargets[d]? with
  | none => rfl
  | some ids =>
    rw [targeting_datum hd] at h
    have kept : ids.without (· = id) = ids :=
      SubscriptionSet.without_eq_self fun a ha eq => h (eq ▸ ha)
    have nonempty := SubscriptionSet.isEmpty_eq_false_iff.mpr (indexed.targeted d ids hd)
    rw [Option.bind_some, kept, if_neg (by simp only [nonempty]; simp)]

/-- A subscription is taken from the index by target. -/
theorem dropTarget_eq_without (indexed : s.EdgesIndexed) {id : SubscriptionId}
    {e : Subscription} (he : s.edges.subscriptions[id]? = some e) (d : DatumId) :
    (EdgeTable.dropTarget s.edges.datumTargets id e.target)[d]? =
      (s.edges.without (· = id)).datumTargets[d]? := by
  by_cases ends : e.target = .datum d
  · have member : id ∈ s.edges.targeting d := (indexed.targeting d id).mpr ⟨e, he, ends⟩
    rw [EdgeTable.getElem?_datumTargets_without, ends]
    simp only [EdgeTable.dropTarget]
    cases hd : s.edges.datumTargets[d]? with
    | none => simp [EdgeTable.targeting, hd] at member
    | some ids =>
      simp only [Option.bind_some, SubscriptionSet.without_singleton]
      split <;> simp
  · have other : id ∉ s.edges.targeting d := by
      rw [indexed.targeting]
      rintro ⟨e', he', ends'⟩
      rw [he] at he'
      cases he'
      exact ends ends'
    rw [targets_without_other indexed other]
    cases ht : e.target with
    | closure c => rfl
    | datum a =>
      have ne : ¬ a = d := fun eq => ends (by rw [ht, eq])
      simp only [EdgeTable.dropTarget]
      split
      · rfl
      · split
        · simp [Std.ExtTreeMap.getElem?_erase, ne]
        · simp [Std.ExtTreeMap.getElem?_insert, ne]

/-- The loss of one subscription is the removal of it alone. -/
theorem erase_eq_without (indexed : s.EdgesIndexed) {id : SubscriptionId} {e : Subscription}
    (he : s.edges.subscriptions[id]? = some e) :
    s.edges.erase id e = s.edges.without (· = id) := by
  have hs : (s.edges.erase id e).subscriptions = (s.edges.without (· = id)).subscriptions := by
    refine Std.ExtTreeMap.ext_getElem? fun a => ?_
    rw [EdgeTable.getElem?_subscriptions_without, EdgeTable.erase, Std.ExtTreeMap.getElem?_erase]
    by_cases h : a = id
    · simp [h]
    · have h' : ¬ id = a := fun eq => h eq.symm
      simp [h, h']
  have hf : (s.edges.erase id e).functions = (s.edges.without (· = id)).functions := by
    have orphans (f : FunctionId) : s.edges.Orphans (· = id) f ↔ e.callback = f := by
      simp [EdgeTable.Orphans, he]
    refine Std.ExtTreeMap.ext_getElem? fun f => ?_
    rw [EdgeTable.getElem?_functions_without, EdgeTable.erase, Std.ExtTreeMap.getElem?_erase]
    simp [orphans]
  have ht : (s.edges.erase id e).datumTargets = (s.edges.without (· = id)).datumTargets :=
    Std.ExtTreeMap.ext_getElem? fun d => dropTarget_eq_without indexed he d
  cases hl : s.edges.erase id e
  cases hr : s.edges.without (· = id)
  simp_all

/-- A subscription is in no set at a node where it does not start or end. -/
theorem EdgesIndexed.not_mem_outgoing (indexed : s.EdgesIndexed) {id : SubscriptionId}
    {e : Subscription} (he : s.edges.subscriptions[id]? = some e) {node : NodeId}
    (other : ¬ e.source = node) : id ∉ s.outgoing node := by
  rw [indexed.outgoing]
  rintro ⟨e', he', starts⟩
  rw [he] at he'
  cases he'
  exact other starts

/-- A subscription comes in at no closure but its target. -/
theorem EdgesIndexed.not_mem_incoming (indexed : s.EdgesIndexed) {id : SubscriptionId}
    {e : Subscription} (he : s.edges.subscriptions[id]? = some e) {c : ClosureId}
    (other : ¬ e.target = .closure c) : id ∉ s.incoming c := by
  rw [indexed.incoming]
  rintro ⟨e', he', ends⟩
  rw [he] at he'
  cases he'
  exact other ends

/-- Removing a subscription from its two ends drops it from every node. -/
theorem unlinkEdge_eq_dropEdges (indexed : s.EdgesIndexed) {id : SubscriptionId}
    {e : Subscription} (he : s.edges.subscriptions[id]? = some e) :
    State.unlinkEdge { s with edges := s.edges.erase id e } id e.source e.target =
      s.dropEdges (· = id) := by
  rw [unlinkEdge_eq, erase_eq_without indexed he]
  have absent {ids : SubscriptionSet} (h : id ∉ ids) : ids.without (· = id) = ids :=
    SubscriptionSet.without_eq_self fun a ha eq => h (eq ▸ ha)
  refine ext_tables rfl rfl ?_ ?_ rfl rfl rfl rfl
  · intro d
    rw [getElem?_datums_atEnds, getElem?_datums_dropEdges]
    cases h : s.datums[d]? with
    | none => rfl
    | some x =>
      by_cases starts : e.source = .datum d
      · simp [starts, Datum.unlink, SubscriptionSet.without_singleton]
      · have other : id ∉ x.outgoing := outgoing_datum h ▸ indexed.not_mem_outgoing he starts
        simp [starts, Datum.unlink, absent other]
  · intro c
    rw [getElem?_closures_atEnds, getElem?_closures_dropEdges]
    cases h : s.closures[c]? with
    | none => rfl
    | some x =>
      have first : (if e.source = .closure c then x.outgoing.erase id else x.outgoing) =
          x.outgoing.without (· = id) := by
        split
        · rw [SubscriptionSet.without_singleton]
        · next starts =>
          exact (absent (outgoing_closure h ▸ indexed.not_mem_outgoing he starts)).symm
      have second : (if e.target = .closure c then x.incoming.erase id else x.incoming) =
          x.incoming.without (· = id) := by
        split
        · rw [SubscriptionSet.without_singleton]
        · next ends =>
          exact (absent (incoming_closure h ▸ indexed.not_mem_incoming he ends)).symm
      simp only [Option.map_some, Closure.unlink, first, second]

end State

namespace Kernel

open State

variable {k : Kernel κ}

/-- Removing a subscription drops it. -/
theorem toState_removeEdge (indexed : k.toState.EdgesIndexed) (id : SubscriptionId) :
    (k.removeEdge id).toState = k.toState.dropEdges (· = id) := by
  unfold removeEdge
  cases he : k.edges.subscriptions[id]? with
  | none =>
    have nothing : k.toState.dropEdges (· = id) = k.toState.dropEdges (fun _ => False) := by
      refine dropEdges_congr indexed fun a e ha => ?_
      rw [iff_false]
      rintro rfl
      rw [he] at ha
      cases ha
    rw [nothing, dropEdges_none indexed]
  | some e =>
    simp only [toState_emit, toState_mapState]
    exact unlinkEdge_eq_dropEdges indexed he

/-- Removing several subscriptions drops them. -/
theorem toState_removeEdges (indexed : k.toState.EdgesIndexed) (ids : List SubscriptionId) :
    (k.removeEdges ids).toState = k.toState.dropEdges (· ∈ ids) := by
  unfold removeEdges
  induction ids generalizing k with
  | nil => simp [dropEdges_none indexed]
  | cons id ids ih =>
    have next : (k.removeEdge id).toState.EdgesIndexed := by
      rw [toState_removeEdge indexed]
      exact indexed.dropEdges _
    rw [List.foldl_cons, ih next, toState_removeEdge indexed, dropEdges_dropEdges]
    simp only [List.mem_cons]

end Kernel

end ReactiveKernel
