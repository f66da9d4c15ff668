import Mathlib.Data.List.Nodup
import ReactiveKernel.Proofs.Ledger.Agreement
import ReactiveKernel.Proofs.State.Rollback
import ReactiveKernel.Proofs.Twins.Shuffled

/-!
# Subscriptions that are made and removed

Subscriptions are made one after another, and then each of them is removed. Since removing a
subscription drops exactly what mentions it, the order of removals does not matter, and when all of
them are gone the tables are what they were. What is left are identities that were given out, and
subscriptions that are pending though they are gone.
-/

namespace ReactiveKernel

variable {κ : Type}

/-- A subscription that is asked for. -/
structure Link (κ : Type) where
  /-- Where it is to start. -/
  source : NodeId
  /-- Where it is to end. -/
  target : NodeId
  /-- The changes that it is to match. -/
  selector : Selector
  /-- Its callback. -/
  code : κ

namespace Kernel

/-- Make subscriptions one after another, all of them or none. -/
def subscribeAll : List (Link κ) → Kernel κ → Except Fault (List SubscriptionId × Kernel κ)
  | [], k => .ok ([], k)
  | link :: rest, k => do
    let (id, k) ← k.subscribe link.source link.target link.selector link.code
    let (ids, k) ← subscribeAll rest k
    return (id :: ids, k)

/-- Remove subscriptions one after another. The answers are whether they were live. -/
def unsubscribeAll : List SubscriptionId → Kernel κ → List Bool × Kernel κ
  | [], k => ([], k)
  | id :: rest, k =>
    let (live, k) := k.unsubscribe id
    let (answers, k) := unsubscribeAll rest k
    (live :: answers, k)

end Kernel

namespace State

variable {s t : State κ}

/-- States with the same tables have the same tables when subscriptions are lost. -/
theorem SameTables.dropEdges (h : s.SameTables t) (gone : SubscriptionId → Prop) :
    (s.dropEdges gone).SameTables (t.dropEdges gone) := by
  refine ⟨?_, ?_, ?_⟩ <;> simp only [State.dropEdges, h.datums, h.closures, h.edges]

end State

namespace Kernel

open State

variable {k k' m : Kernel κ} {links : List (Link κ)} {ids removed : List SubscriptionId}

/-- What becomes of a kernel in which subscriptions are made one after another. -/
structure Enlists (k : Kernel κ) (links : List (Link κ)) (ids : List SubscriptionId)
    (m : Kernel κ) : Prop where
  /-- They got the next identities. -/
  issued : ids = (List.range' k.counters.subscriptions links.length).map SubscriptionId.mk
  /-- Each used up one identity, and one for its callback. -/
  counters : m.counters = { k.counters with
    subscriptions := k.counters.subscriptions + links.length
    functions := k.counters.functions + links.length }
  /-- The state is consistent. -/
  consistent : m.toState.Consistent
  /-- Without them the tables are what they were. -/
  tables : k.toState.SameTables (m.toState.dropEdges (· ∈ ids))
  /-- They are registered besides those that were. -/
  registered : ∀ id, id ∈ m.edges.subscriptions ↔ id ∈ k.edges.subscriptions ∨ id ∈ ids
  /-- Those whose source had changed in this generation are pending. -/
  pending : ∀ id, id ∈ m.schedule.pending ↔ id ∈ k.schedule.pending ∨
    ∃ link, (id, link) ∈ ids.zip links ∧ k.toState.stamp? link.source = some k.generation
  /-- Nothing else is different. -/
  rest : m.toState = { k.toState with
    counters := m.counters
    datums := m.datums
    closures := m.closures
    edges := m.edges
    schedule := { k.schedule with pending := m.schedule.pending } }

/-- A kernel in which no subscription is made is as it was. -/
theorem Enlists.nil (consistent : k.toState.Consistent) : k.Enlists [] [] k where
  issued := rfl
  counters := rfl
  consistent := consistent
  tables := by
    simp only [List.not_mem_nil, dropEdges_none consistent.indexed]
    exact .refl _
  registered := by simp
  pending := by simp
  rest := rfl

/-- One more subscription, before the others. -/
theorem Enlists.cons {link : Link κ} {id : SubscriptionId} {k₁ : Kernel κ}
    (consistent : k.toState.Consistent)
    (made : k.subscribe link.source link.target link.selector link.code = .ok (id, k₁))
    (h : k₁.Enlists links ids m) : k.Enlists (link :: links) (id :: ids) m := by
  obtain ⟨source, target, rfl, state, caught⟩ := subscribe_spec made
  have counters : k₁.counters = { k.counters with
      subscriptions := k.counters.subscriptions + 1
      functions := k.counters.functions + 1 } := by
    rw [state]
    rfl
  have table (id : SubscriptionId) : id ∈ k₁.edges.subscriptions ↔
      id ∈ k.edges.subscriptions ∨ id = k.toState.nextSubscription := by
    rw [state]
    simp only [withPending, addEdge, EdgeTable.insert, Std.ExtTreeMap.mem_insert,
      Std.LawfulEqCmp.compare_eq_iff_eq]
    rw [or_comm, eq_comm]
  refine ⟨?_, ?_, h.consistent, ?_, fun id => ?_, fun id => ?_, ?_⟩
  · rw [h.issued, counters, List.length_cons, List.range'_succ, List.map_cons]
    rfl
  · rw [h.counters, counters]
    simp only [List.length_cons, Nat.add_assoc, Nat.add_comm 1]
  · have one : k.toState.SameTables (k₁.toState.dropEdges (· = k.toState.nextSubscription)) := by
      rw [state]
      have undone := sameTables_addEdge consistent source target link.selector link.code
      exact ⟨undone.datums, undone.closures, undone.edges⟩
    have all := one.trans (h.tables.dropEdges (· = k.toState.nextSubscription))
    rw [dropEdges_dropEdges] at all
    simpa only [List.mem_cons, or_comm] using all
  · rw [h.registered, table, List.mem_cons, or_assoc]
  · have now : k₁.generation = k.generation := by rw [state]; rfl
    have stamps (node : NodeId) : k₁.toState.stamp? node = k.toState.stamp? node := by
      rw [state]
      exact stamp_addEdge link.source link.target link.selector link.code node
    rw [h.pending, caught]
    simp only [stamps, now, List.zip_cons_cons, List.mem_cons, Prod.mk.injEq]
    constructor
    · rintro ((old | ⟨rfl, fresh⟩) | ⟨other, listed, fresh⟩)
      · exact .inl old
      · exact .inr ⟨link, .inl ⟨rfl, rfl⟩, fresh⟩
      · exact .inr ⟨other, .inr listed, fresh⟩
    · rintro (old | ⟨other, ⟨rfl, rfl⟩ | listed, fresh⟩)
      · exact .inl (.inl old)
      · exact .inl (.inr ⟨rfl, fresh⟩)
      · exact .inr ⟨other, listed, fresh⟩
  · rw [h.rest, state]
    rfl

/-- Subscriptions that are made one after another are enlisted. -/
theorem enlists_subscribeAll (consistent : k.toState.Consistent)
    (made : k.subscribeAll links = .ok (ids, m)) : k.Enlists links ids m := by
  induction links generalizing k ids with
  | nil =>
    cases made
    exact .nil consistent
  | cons link links ih =>
    simp only [subscribeAll, bind_eq_ok] at made
    obtain ⟨⟨id, k₁⟩, first, ⟨ids', m'⟩, others, same⟩ := made
    cases same
    exact .cons consistent first
      (ih ((subscribe_effect k _ _ _ _ first).consistent consistent) others)

namespace Enlists

/-- No two of them have the same identity. -/
theorem nodup (h : k.Enlists links ids m) : ids.Nodup := by
  have numbers : (List.range' k.counters.subscriptions links.length).Nodup := List.nodup_range'
  rw [h.issued]
  exact numbers.map fun a b same => SubscriptionId.mk.inj same

/-- Their identities are given out. -/
theorem given (h : k.Enlists links ids m) {id : SubscriptionId} (listed : id ∈ ids) :
    id.raw < m.counters.subscriptions := by
  rw [h.issued] at listed
  obtain ⟨n, within, rfl⟩ := List.mem_map.mp listed
  rw [h.counters]
  exact (List.mem_range'_1.mp within).2

/-- When all of them are removed, the tables are what they were. -/
theorem restored (h : k.Enlists links ids m) (perm : removed.Perm ids) :
    (m.removeEdges removed).toState = { k.toState with
      counters := m.counters
      schedule := { k.schedule with pending := m.schedule.pending } } := by
  have same : (fun id => id ∈ removed) = fun id => id ∈ ids := by
    funext id
    rw [perm.mem_iff]
  obtain ⟨datums, closures, edges⟩ := h.tables
  rw [toState_removeEdges h.consistent.indexed, same]
  have settings : m.settings = k.settings := by rw [h.rest]
  have schedule : m.schedule = { k.schedule with pending := m.schedule.pending } :=
    congrArg State.schedule h.rest
  have templates : m.templates = k.templates := by rw [h.rest]
  have inbox : m.inbox = k.inbox := by rw [h.rest]
  exact ext_tables settings rfl (fun d => by rw [datums]) (fun c => by rw [closures]) edges schedule
    templates inbox

end Enlists

/-! Answers to removals. -/

/-- Subscriptions that are removed one after another are removed. -/
theorem unsubscribeAll_snd (ids : List SubscriptionId) (k : Kernel κ) :
    (k.unsubscribeAll ids).2 = k.removeEdges ids := by
  induction ids generalizing k with
  | nil => rfl
  | cons id rest ih => exact ih (k.unsubscribe id).2

/-- A subscription is registered after removals if it was and is not among them. -/
theorem mem_subscriptions_removeEdges (ids : List SubscriptionId) (k : Kernel κ)
    (id : SubscriptionId) : id ∈ (k.removeEdges ids).edges.subscriptions ↔
      id ∉ ids ∧ id ∈ k.edges.subscriptions := by
  induction ids generalizing k with
  | nil => simp [removeEdges]
  | cons a rest ih =>
    have split : k.removeEdges (a :: rest) = (k.removeEdge a).removeEdges rest := rfl
    rw [split, ih, mem_subscriptions_removeEdge, List.mem_cons, not_or, and_left_comm, and_assoc]

/-- Every subscription is removed that is registered and is removed once. -/
theorem unsubscribeAll_fst (nodup : ids.Nodup)
    (registered : ∀ id ∈ ids, id ∈ k.edges.subscriptions) :
    (k.unsubscribeAll ids).1 = ids.map fun _ => true := by
  induction ids generalizing k with
  | nil => rfl
  | cons id rest ih =>
    obtain ⟨new, nodup⟩ := List.nodup_cons.mp nodup
    have live : k.edges.subscriptions.contains id = true :=
      Std.ExtTreeMap.mem_iff_contains.mp (registered id List.mem_cons_self)
    have others : ∀ a ∈ rest, a ∈ (k.removeEdge id).edges.subscriptions := fun a listed =>
      (mem_subscriptions_removeEdge k id a).mpr
        ⟨fun same => new (same ▸ listed), registered a (List.mem_cons_of_mem id listed)⟩
    exact congrArg₂ List.cons live (ih nodup others)

/-- To remove a subscription that is gone changes nothing. -/
theorem unsubscribe_gone {id : SubscriptionId} (gone : id ∉ k.edges.subscriptions) :
    k.unsubscribe id = (false, k) := by
  have absent : k.edges.subscriptions[id]? = none := Std.ExtTreeMap.getElem?_eq_none gone
  have dead : k.edges.subscriptions.contains id = false :=
    Bool.eq_false_iff.mpr fun live => gone (Std.ExtTreeMap.mem_iff_contains.mpr live)
  simp [unsubscribe, removeEdge, absent, dead]

end Kernel

end ReactiveKernel
