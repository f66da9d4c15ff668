import ReactiveKernel.Proofs.Effect.Consistency

/-!
# The indexes of the edges

At every moment at which host code is in control, the sets at the nodes, the index of targets and
the table of functions hold exactly what the table of subscriptions holds, and no subscription
refers to a node that is gone.
-/

namespace ReactiveKernel

variable {κ : Type}

namespace State

variable {s : State κ}

/-- Every function is the callback of one subscription. -/
theorem EdgesIndexed.existsUnique_callback (indexed : s.EdgesIndexed) {f : FunctionId} :
    f ∈ s.edges.functions ↔
      ∃! id : SubscriptionId, ∃ e : Subscription,
        s.edges.subscriptions[id]? = some e ∧ e.callback = f := by
  rw [indexed.functions]
  constructor
  · rintro ⟨id, e, he, hf⟩
    refine ⟨id, ⟨e, he, hf⟩, ?_⟩
    rintro id' ⟨e', he', hf'⟩
    exact indexed.callback_injective id' id e' e he' he (hf'.trans hf.symm)
  · rintro ⟨id, ⟨e, he, hf⟩, _⟩
    exact ⟨id, e, he, hf⟩

/-- There are as many functions as subscriptions. -/
theorem EdgesIndexed.size_functions (indexed : s.EdgesIndexed) :
    s.edges.functions.size = s.edges.subscriptions.size := by
  have entry {id : SubscriptionId} {e : Subscription} :
      (id, e) ∈ s.edges.subscriptions.toList ↔ s.edges.subscriptions[id]? = some e :=
    Std.ExtTreeMap.mem_toList_iff_getElem?_eq_some
  have distinct : (s.edges.subscriptions.toList.map fun p => p.2.callback).Nodup := by
    rw [List.Nodup, List.pairwise_map]
    refine s.edges.subscriptions.distinct_keys_toList.imp_of_mem ?_
    rintro ⟨id, e⟩ ⟨id', e'⟩ he he' other same
    have eq := indexed.callback_injective id id' e e' (entry.mp he) (entry.mp he') same
    exact other (Std.LawfulEqCmp.compare_eq_iff_eq.mpr eq)
  have keys : s.edges.functions.keys.Perm
      (s.edges.subscriptions.toList.map fun p => p.2.callback) := by
    rw [List.perm_ext_iff_of_nodup s.edges.functions.nodup_keys distinct]
    intro f
    rw [Std.ExtTreeMap.mem_keys, indexed.functions, List.mem_map]
    constructor
    · rintro ⟨id, e, he, hf⟩
      exact ⟨(id, e), entry.mpr he, hf⟩
    · rintro ⟨⟨id, e⟩, he, hf⟩
      exact ⟨id, e, entry.mp he, hf⟩
  rw [← Std.ExtTreeMap.length_keys, keys.length_eq, List.length_map,
    Std.ExtTreeMap.length_toList]

end State

namespace Kernel

/-- In a reachable kernel, a subscription is in the outgoing set of a node, in the incoming set of
a closure, or in the index of targets of a datum exactly if it is registered with that end; no
entry of the index of targets is empty; both ends of every subscription are live; and the table
of functions has one entry for the callback of each subscription and no other. -/
theorem edge_indexes_agree {k : Kernel κ} (h : k.Reachable) :
    (∀ node id, id ∈ k.toState.outgoing node ↔
      ∃ e, k.edges.subscriptions[id]? = some e ∧ e.source = node) ∧
    (∀ c id, id ∈ k.toState.incoming c ↔
      ∃ e, k.edges.subscriptions[id]? = some e ∧ e.target = .closure c) ∧
    (∀ d id, id ∈ k.edges.targeting d ↔
      ∃ e, k.edges.subscriptions[id]? = some e ∧ e.target = .datum d) ∧
    (∀ (d : DatumId) (ids : SubscriptionSet), k.edges.datumTargets[d]? = some ids →
      ids.isEmpty = false) ∧
    (∀ (id : SubscriptionId) (e : Subscription), k.edges.subscriptions[id]? = some e →
      k.toState.contains e.source = true ∧ k.toState.contains e.target = true) ∧
    (∀ f : FunctionId, f ∈ k.edges.functions ↔
      ∃! id : SubscriptionId, ∃ e : Subscription,
        k.edges.subscriptions[id]? = some e ∧ e.callback = f) ∧
    k.edges.functions.size = k.edges.subscriptions.size := by
  have indexed := h.consistent.indexed
  refine ⟨indexed.outgoing, indexed.incoming, indexed.targeting, ?_, ?_, ?_,
    indexed.size_functions⟩
  · intro d ids entry
    exact SubscriptionSet.isEmpty_eq_false_iff.mpr (indexed.targeted d ids entry)
  · intro id e he
    exact ⟨indexed.source_live id e he, indexed.target_live id e he⟩
  · intro f
    exact indexed.existsUnique_callback

/-- A closure with a subscription to itself and one from a datum that it owns. -/
def looped : Kernel Unit :=
  (Kernel.create .standard .empty).performAll .ascending
    [.createClosure "Root" none, .createDatum "Cell" [] (some ⟨0⟩),
     .subscribe (.closure ⟨0⟩) (.closure ⟨0⟩) .everything (),
     .subscribe (.datum ⟨0⟩) (.closure ⟨0⟩) .structural ()]

theorem looped_reachable : looped.Reachable := reachable_performAll _ _ _ _

/-- The closure knows its own loop at both ends, and both subscriptions have a function. -/
theorem edge_indexes_agree_looped :
    looped.Reachable ∧
    (∃ e, looped.edges.subscriptions[(⟨0⟩ : SubscriptionId)]? = some e ∧
      e.source = .closure ⟨0⟩) ∧
    (∃ e, looped.edges.subscriptions[(⟨0⟩ : SubscriptionId)]? = some e ∧
      e.target = .closure ⟨0⟩) ∧
    looped.edges.functions.size = 2 := by
  obtain ⟨outgoing, incoming, _, _, _, _, size⟩ := edge_indexes_agree looped_reachable
  refine ⟨looped_reachable, ?_, ?_, ?_⟩
  · exact (outgoing (.closure ⟨0⟩) ⟨0⟩).mp (by decide)
  · exact (incoming ⟨0⟩ ⟨0⟩).mp (by decide)
  · rw [size]
    decide

end Kernel

end ReactiveKernel
