import ReactiveKernel.Proofs.Effect.Basic
import ReactiveKernel.Proofs.Ledger.Order

/-!
# Ledgers that agree with a state

A ledger agrees with a state when all that it says of registered subscriptions, live nodes and the
schedule is the case. Then a change reaches the same subscriptions in both.
-/

namespace ReactiveKernel

variable {κ : Type}

/-- What a ledger says of the subscriptions, the live nodes and the schedule is the case. -/
structure Ledger.Agrees (l : Ledger) (s : State κ) : Prop where
  /-- The registered subscriptions. -/
  registered : ∀ id, l.registered id = (s.edges.subscriptions[id]?).map Subscription.listing
  /-- The owners of live datums. -/
  owner : ∀ (d : DatumId) (x : Datum), s.datums[d]? = some x → l.owner d = x.owner
  /-- The generations of the last changes of live nodes. -/
  stamp : ∀ node n, s.stamp? node = some n → l.stamp node = some n
  /-- The generation of the last wave. -/
  generation : l.generation = s.schedule.generation
  /-- Whether a drain is running. -/
  draining : l.draining = s.schedule.draining

open State Kernel

namespace State

variable {s : State κ}

/-- A new datum is stamped with the generation, and all other stamps stay as they are. -/
theorem stamp_addDatum (typeName : String) (content : Content) (owner : Option ClosureId)
    (node : NodeId) : (s.addDatum typeName content owner).stamp? node =
      if node = .datum s.nextDatum then some s.generation else s.stamp? node := by
  cases node with
  | datum d =>
    simp only [stamp?, getElem?_datums_addDatum, NodeId.datum.injEq, @eq_comm _ d]
    split <;> rfl
  | closure c =>
    simp only [stamp?, getElem?_closures_addDatum, Option.map_map, reduceCtorEq, if_false]
    congr 1
    funext x
    simp only [Function.comp]
    split <;> rfl

/-- A new closure is stamped with the generation, and all other stamps stay as they are. -/
theorem stamp_addClosure (template : String) (parent : Option ClosureId) (node : NodeId) :
    (s.addClosure template parent).stamp? node =
      if node = .closure s.nextClosure then some s.generation else s.stamp? node := by
  cases node with
  | datum d => rfl
  | closure c =>
    simp only [stamp?, getElem?_closures_addClosure, NodeId.closure.injEq, @eq_comm _ c]
    split
    · rfl
    · rw [Option.map_map]
      congr 1
      funext x
      simp only [Function.comp]
      split <;> rfl

/-- A new subscription leaves stamps alone. -/
theorem stamp_addEdge (source target : NodeId) (selector : Selector) (code : κ) (node : NodeId) :
    (s.addEdge source target selector code).stamp? node = s.stamp? node := by
  cases node with
  | datum d =>
    have entry := s.getElem?_datums_atEnds source target (·.insert s.nextSubscription) d
    rw [stamp?, show (s.addEdge source target selector code).datums[d]? = _ from entry,
      Option.map_map]
    refine congrArg (Option.map · _) (funext fun x => ?_)
    simp only [Function.comp_apply]
    split <;> rfl
  | closure c =>
    have entry := s.getElem?_closures_atEnds source target (·.insert s.nextSubscription) c
    rw [stamp?, show (s.addEdge source target selector code).closures[c]? = _ from entry,
      Option.map_map]
    rfl

/-- The loss of subscriptions leaves stamps alone. -/
theorem stamp_dropEdges (lost : SubscriptionId → Prop) (node : NodeId) :
    (s.dropEdges lost).stamp? node = s.stamp? node := by
  cases node with
  | datum d =>
    simp only [stamp?, getElem?_datums_dropEdges, Option.map_map]
    rfl
  | closure c =>
    simp only [stamp?, getElem?_closures_dropEdges, Option.map_map]
    rfl

/-- A node that survives keeps its stamp. -/
theorem stamp_of_dropNodes {gone : NodeId → Prop} {node : NodeId} {n : Nat}
    (h : (s.dropNodes gone).stamp? node = some n) : s.stamp? node = some n := by
  cases node with
  | datum d =>
    simp only [stamp?, getElem?_datums_dropNodes] at h
    split at h
    · cases h
    · exact h
  | closure c =>
    simp only [stamp?, getElem?_closures_dropNodes] at h
    split at h
    · cases h
    · rw [Option.map_map] at h
      exact h

end State

namespace Ledger

variable {cuts : List TraceEvent}

open scoped Classical in
/-- The ledger without the subscriptions that are among some removals. -/
noncomputable def without (l : Ledger) (cuts : List TraceEvent) : Ledger :=
  { l with registered := fun id => if .unsubscribed id ∈ cuts then none else l.registered id }

/-- A subscription is not registered once its removal is announced. -/
theorem registered_without_of_mem {l : Ledger} {id : SubscriptionId}
    (h : .unsubscribed id ∈ cuts) : (l.without cuts).registered id = none := if_pos h

/-- A subscription stays as it is registered if its removal is not announced. -/
theorem registered_without_of_not_mem {l : Ledger} {id : SubscriptionId}
    (h : .unsubscribed id ∉ cuts) : (l.without cuts).registered id = l.registered id := if_neg h

/-- The ledger after removals depends on which subscriptions are removed, not on their order. -/
theorem without_congr {l : Ledger} {cuts' : List TraceEvent}
    (h : ∀ id, .unsubscribed id ∈ cuts ↔ .unsubscribed id ∈ cuts') :
    l.without cuts = l.without cuts' := by
  have same (id : SubscriptionId) :
      (l.without cuts).registered id = (l.without cuts').registered id := by
    by_cases removed : .unsubscribed id ∈ cuts
    · rw [registered_without_of_mem removed, registered_without_of_mem ((h id).mp removed)]
    · rw [registered_without_of_not_mem removed,
        registered_without_of_not_mem fun removed' => removed ((h id).mpr removed')]
  rw [without, without]
  exact congrArg (fun f => { l with registered := f }) (funext same)

/-- After removals were announced, the subscriptions among them are not registered. -/
theorem record_removals (removals : ∀ e ∈ cuts, e.isRemoval = true) (l : Ledger) :
    (cuts.map (Occurrence.announced (κ := κ))).foldl record l = l.without cuts := by
  induction cuts generalizing l with
  | nil => simp [without]
  | cons e cuts ih =>
    rw [List.map_cons, List.foldl_cons, ih fun e' he' => removals e' (List.mem_cons_of_mem e he')]
    have removal := removals e List.mem_cons_self
    cases e with
    | unsubscribed i =>
      simp only [without, record, announce, Function.update_apply, List.mem_cons,
        TraceEvent.unsubscribed.injEq]
      congr 1
      funext id
      by_cases later : .unsubscribed id ∈ cuts <;> simp [later]
    | datumDestroyed d => exact without_congr (by simp)
    | closureDestroyed c => exact without_congr (by simp)
    | _ => cases removal

end Ledger

/-- Removals fit anywhere. -/
theorem Orderly.removals {entries : List (Occurrence κ)} {cuts : List TraceEvent}
    (h : Orderly entries) (removals : ∀ e ∈ cuts, e.isRemoval = true) :
    Orderly (entries ++ cuts.map .announced) := by
  induction cuts using List.reverseRecOn with
  | nil => simpa using h
  | append_singleton cuts e ih =>
    rw [List.map_append, ← List.append_assoc]
    refine .snoc (ih fun e' he' => removals e' (by simp [he'])) ?_
    have removal := removals e (by simp)
    cases e <;> trivial

/-- Removals do not matter for what is due. -/
theorem Due.removals {entries : List (Occurrence κ)} {cuts : List TraceEvent}
    {id : SubscriptionId} (removals : ∀ e ∈ cuts, e.isRemoval = true) :
    Due (entries ++ cuts.map .announced) id ↔ Due entries id := by
  induction cuts using List.reverseRecOn with
  | nil => simp
  | append_singleton cuts e ih =>
    have removal := removals e (by simp)
    have quiet : e.mayCall = false ∧ (.announced e : Occurrence κ).isBoundary = false := by
      cases e <;> first | exact ⟨rfl, rfl⟩ | cases removal
    rw [List.map_append, ← List.append_assoc, List.map_singleton, Due.snoc, and_iff_right quiet.2,
      or_iff_right (Ledger.not_calls (by rintro _ ⟨⟩; exact quiet.1) id)]
    exact ih fun e' he' => removals e' (by simp [he'])

namespace Ledger.Agrees

variable {l : Ledger} {s : State κ} {node : NodeId} {change : Change} {id : SubscriptionId}

/-- A ledger that agrees with a state has the listings of its subscriptions. -/
theorem registered_iff (agrees : l.Agrees s) {e : Listing} : l.registered id = some e ↔
    ∃ x, s.edges.subscriptions[id]? = some x ∧ x.listing = e := by
  rw [agrees.registered, Option.map_eq_some_iff]

/-- A change of a live node reaches the same subscriptions in the ledger and in the state. -/
theorem hears (agrees : l.Agrees s) (live : s.contains node = true) :
    l.Hears node change id ↔ s.Hears node change id := by
  constructor
  · rintro ⟨e, registered, heard⟩
    obtain ⟨x, hx, rfl⟩ := agrees.registered_iff.mp registered
    rcases heard with ⟨starts, accepts⟩ | ⟨d, c, rfl, owner, starts, accepts⟩
    · exact .inl ⟨x, hx, starts, accepts⟩
    · obtain ⟨y, hy⟩ := contains_datum.mp live
      rw [agrees.owner d y hy] at owner
      exact .inr ⟨c, ⟨d, y, rfl, hy, owner⟩, x, hx, starts, accepts⟩
  · rintro (⟨x, hx, starts, accepts⟩ | ⟨c, ⟨d, y, rfl, hy, owner⟩, x, hx, starts, accepts⟩)
    · exact ⟨x.listing, agrees.registered_iff.mpr ⟨x, hx, rfl⟩, .inl ⟨starts, accepts⟩⟩
    · rw [← agrees.owner d y hy] at owner
      exact ⟨x.listing, agrees.registered_iff.mpr ⟨x, hx, rfl⟩, .inr ⟨d, c, rfl, owner, starts,
        accepts⟩⟩

/-- Whether a live node has changed in this generation is the same in the ledger and in the
state. -/
theorem stamped (agrees : l.Agrees s) (live : s.contains node = true) :
    l.stamp node = some l.generation ↔ s.stamp? node = some s.generation := by
  obtain ⟨n, hn⟩ : ∃ n, s.stamp? node = some n := by
    cases node with
    | datum d =>
      obtain ⟨x, hx⟩ := contains_datum.mp live
      exact ⟨x.setGeneration, by simp [stamp?, hx]⟩
    | closure c =>
      obtain ⟨x, hx⟩ := contains_closure.mp live
      exact ⟨x.setGeneration, by simp [stamp?, hx]⟩
  rw [agrees.stamp node n hn, hn, agrees.generation]
  rfl

end Ledger.Agrees

namespace Kernel

variable {k k' : Kernel κ}

/-- Without the subscriptions that were removed, a ledger is still right. -/
theorem Cuts.agrees {l : Ledger} {cuts : List TraceEvent} {lost : SubscriptionId → Prop}
    {gone : NodeId → Prop} (cut : k.Cuts cuts k') (agrees : l.Agrees k.toState)
    (state : k'.toState = (k.toState.dropEdges lost).dropNodes gone) :
    (l.without cuts).Agrees k'.toState := by
  refine ⟨fun id => ?_, fun d y hy => ?_, fun node n stamp => ?_, ?_, ?_⟩
  · by_cases removed : .unsubscribed id ∈ cuts
    · have dead := ((cut.unsubscribed id).mp removed).2
      rw [Ledger.registered_without_of_mem removed, Std.ExtTreeMap.getElem?_eq_none dead]
      rfl
    · rw [Ledger.registered_without_of_not_mem removed, agrees.registered]
      cases after : k'.edges.subscriptions[id]? with
      | some e => rw [cut.kept id e after]
      | none =>
        cases before : k.edges.subscriptions[id]? with
        | none => rfl
        | some e =>
          have dead : id ∉ k'.edges.subscriptions := by
            rw [mem_subscriptions, after]
            rintro ⟨_, ⟨⟩⟩
          exact absurd ((cut.unsubscribed id).mpr ⟨mem_subscriptions.mpr ⟨e, before⟩, dead⟩) removed
  · rw [state, getElem?_datums_dropNodes] at hy
    split at hy
    · cases hy
    · obtain ⟨x, hx, owner⟩ := (k.toState.sameTree_dropEdges lost).datum hy
      exact (agrees.owner d x hx).trans owner.symm
  · rw [state] at stamp
    have before := stamp_of_dropNodes stamp
    rw [stamp_dropEdges] at before
    exact agrees.stamp node n before
  · rw [state]
    exact agrees.generation
  · rw [state]
    exact agrees.draining

end Kernel

end ReactiveKernel
