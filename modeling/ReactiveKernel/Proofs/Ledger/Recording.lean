import ReactiveKernel.Proofs.Effect.Consistency
import ReactiveKernel.Proofs.Ledger.Agreement

/-!
# The journal tells what is due

As long as the journal is orderly and its ledger agrees with the state, what is pending is what is
due. Each effect keeps this, and leaves a wave that is on its course alone.
-/

namespace ReactiveKernel

open State

variable {κ : Type}

namespace Kernel

/-- The ledger of what has happened. -/
def ledger (k : Kernel κ) : Ledger := .of k.history

/-- The journal tells what is registered and what is due. -/
structure Recorded (k : Kernel κ) : Prop where
  /-- The state is consistent. -/
  consistent : k.toState.Consistent
  /-- The journal is orderly. -/
  orderly : Orderly k.history
  /-- The ledger is right. -/
  agrees : k.ledger.Agrees k.toState
  /-- What is pending is what is due. -/
  due : ∀ id, id ∈ k.schedule.pending ↔ Due k.history id
  /-- Outside of drains no turns are to come. -/
  idle : k.schedule.draining = false → k.ledger.rest = []

/-- A wave on its course was not disturbed. -/
structure Resumes (k k' : Kernel κ) : Prop where
  /-- A drain is running exactly if one was running. -/
  draining : k'.schedule.draining = k.schedule.draining
  /-- A running drain has taken no wave. -/
  generation : k.schedule.draining = true → k'.schedule.generation = k.schedule.generation
  /-- No turns of its wave were taken. -/
  rest : k.schedule.draining = true → k'.ledger.rest = k.ledger.rest
  /-- The last turn is still the last one. -/
  turn : k.schedule.draining = true → k'.ledger.turn = k.ledger.turn

variable {k k' k'' : Kernel κ}

theorem Resumes.refl (k : Kernel κ) : k.Resumes k := ⟨rfl, fun _ => rfl, fun _ => rfl, fun _ => rfl⟩

theorem Resumes.trans (h : k.Resumes k') (h' : k'.Resumes k'') : k.Resumes k'' := by
  refine ⟨h'.draining.trans h.draining, fun draining => ?_, fun draining => ?_, fun draining => ?_⟩
  · exact (h'.generation (h.draining.trans draining)).trans (h.generation draining)
  · exact (h'.rest (h.draining.trans draining)).trans (h.rest draining)
  · exact (h'.turn (h.draining.trans draining)).trans (h.turn draining)

/-- The ledger is determined by the history. -/
theorem ledger_of_history (h : k'.history = k.history) : k'.ledger = k.ledger :=
  congrArg Ledger.of h

/-- One more entry of the history is recorded in the ledger. -/
theorem ledger_snoc {o : Occurrence κ} (h : k'.history = k.history ++ [o]) :
    k'.ledger = k.ledger.record o := by
  rw [ledger, h, Ledger.of_snoc]
  rfl

/-- One more entry, other than a boundary. -/
theorem Recorded.next {o : Occurrence κ} (h : k.Recorded)
    (history : k'.history = k.history ++ [o]) (consistent : k'.toState.Consistent)
    (fits : Fits k.history o) (inside : o.isBoundary = false)
    (agrees : (k.ledger.record o).Agrees k'.toState)
    (pending : ∀ id, id ∈ k'.schedule.pending ↔ id ∈ k.schedule.pending ∨ k.ledger.Calls o id)
    (idle : k'.schedule.draining = false → (k.ledger.record o).rest = []) : k'.Recorded := by
  refine ⟨consistent, ?_, ledger_snoc history ▸ agrees, fun id => ?_, ledger_snoc history ▸ idle⟩
  · rw [history]
    exact .snoc h.orderly fits
  · rw [history, Due.snoc, pending, h.due, or_comm]
    exact or_congr_right (and_iff_right inside).symm

/-- An announcement that is not one of a drain. -/
theorem Recorded.announced {e : TraceEvent} (h : k.Recorded) (ours : e.isOfDrain = false)
    (history : k'.history = k.history ++ [.announced e]) (consistent : k'.toState.Consistent)
    (generation : k'.schedule.generation = k.schedule.generation)
    (draining : k'.schedule.draining = k.schedule.draining)
    (registered : ∀ id, (k.ledger.announce e).registered id =
      (k'.edges.subscriptions[id]?).map Subscription.listing)
    (owner : ∀ (d : DatumId) (x : Datum), k'.datums[d]? = some x →
      (k.ledger.announce e).owner d = x.owner)
    (stamp : ∀ node n, k'.toState.stamp? node = some n →
      (k.ledger.announce e).stamp node = some n)
    (pending : ∀ id, id ∈ k'.schedule.pending ↔
      id ∈ k.schedule.pending ∨ k.ledger.Calls (.announced e : Occurrence κ) id) :
    k'.Recorded ∧ k.Resumes k' := by
  obtain ⟨clock, running, rest, turn⟩ := Ledger.announce_clock (l := k.ledger) ours
  have fits : Fits k.history (.announced e) := by
    cases e <;> trivial
  have inside : (.announced e : Occurrence κ).isBoundary = false := by
    cases e <;> first | rfl | cases ours
  have ledger : k'.ledger = k.ledger.announce e := ledger_snoc history
  refine ⟨h.next history consistent fits inside ⟨registered, owner, stamp, ?_, ?_⟩ pending ?_, ?_⟩
  · exact clock.trans (h.agrees.generation.trans generation.symm)
  · exact running.trans (h.agrees.draining.trans draining.symm)
  · intro idle
    exact rest.trans (h.idle (draining ▸ idle))
  · exact ⟨draining, fun _ => generation, fun _ => ledger ▸ rest, fun _ => ledger ▸ turn⟩

/-! Each effect. -/

/-- The journal tells what is due where neither stamps, what is pending nor the history has changed.
-/
theorem Recorded.still (h : k.Recorded) (same : k.toState.SameStamps k'.toState)
    (pending : k'.schedule.pending = k.schedule.pending) (history : k'.history = k.history) :
    k'.Recorded ∧ k.Resumes k' := by
  have ledger : k'.ledger = k.ledger := ledger_of_history history
  have issued : ∀ id ∈ k'.schedule.pending, id.raw < k.counters.subscriptions :=
    pending ▸ h.consistent.issued.pending
  refine ⟨⟨same.toSameLinks.consistent h.consistent issued, history ▸ h.orderly, ?_, ?_, ?_⟩,
    ⟨same.draining, fun _ => same.generation, fun _ => by rw [ledger], fun _ => by rw [ledger]⟩⟩
  · rw [ledger]
    refine ⟨?_, ?_, ?_, ?_, ?_⟩
    · rw [same.edges]
      exact h.agrees.registered
    · intro d y hy
      obtain ⟨x, hx, owner⟩ := same.tree.datum hy
      rw [h.agrees.owner d x hx, owner]
    · intro node n stamp
      rw [same.stamps] at stamp
      exact h.agrees.stamp node n stamp
    · exact h.agrees.generation.trans same.generation.symm
    · exact h.agrees.draining.trans same.draining.symm
  · rw [pending, history]
    exact h.due
  · rw [ledger, same.draining]
    exact h.idle

/-- The journal tells what is due after an instantiation was announced. -/
theorem Recorded.instantiated (h : k.Recorded) (id : ClosureId) (template : String)
    (state : k'.toState = k.toState)
    (history : k'.history = k.history ++ [.announced (.closureInstantiated id template)]) :
    k'.Recorded ∧ k.Resumes k' := by
  refine h.announced rfl history (state ▸ h.consistent) (by rw [state]) (by rw [state]) ?_ ?_ ?_ ?_
  · rw [state]
    exact h.agrees.registered
  · rw [state]
    exact h.agrees.owner
  · rw [state]
    exact h.agrees.stamp
  · intro id
    rw [state, or_iff_left (Ledger.not_calls (by rintro _ ⟨⟩; rfl) id)]

/-- The journal tells what is due after a datum was made. -/
theorem Recorded.datumCreated (h : k.Recorded) (typeName : String) (content : Content)
    (owner : Option ClosureId) (consistent : k'.toState.Consistent)
    (state : k'.toState = k.toState.addDatum typeName content owner)
    (history : k'.history =
      k.history ++ [.announced (.datumCreated k.toState.nextDatum typeName owner)]) :
    k'.Recorded ∧ k.Resumes k' := by
  refine h.announced rfl history consistent (by rw [state]; rfl) (by rw [state]; rfl) ?_ ?_ ?_ ?_
  · rw [state]
    exact h.agrees.registered
  · intro d x hd
    rw [state, getElem?_datums_addDatum] at hd
    simp only [Ledger.announce, Function.update_apply]
    by_cases new : k.toState.nextDatum = d
    · rw [if_pos new] at hd
      cases hd
      simp [new]
      rfl
    · rw [if_neg new] at hd
      rw [if_neg (Ne.symm new)]
      exact h.agrees.owner d x hd
  · intro node n stamp
    rw [state, stamp_addDatum] at stamp
    simp only [Ledger.announce, Ledger.touch, Function.update_apply, h.agrees.generation]
    split at stamp
    · next new =>
      rw [if_pos new]
      exact stamp
    · next old =>
      rw [if_neg old]
      exact h.agrees.stamp node n stamp
  · intro id
    rw [or_iff_left (Ledger.not_calls (by rintro _ ⟨⟩; rfl) id), state]
    rfl

/-- The journal tells what is due after a closure was made. -/
theorem Recorded.closureCreated (h : k.Recorded) (template : String) (parent : Option ClosureId)
    (consistent : k'.toState.Consistent)
    (state : k'.toState = k.toState.addClosure template parent)
    (history : k'.history =
      k.history ++ [.announced (.closureCreated k.toState.nextClosure template parent)]) :
    k'.Recorded ∧ k.Resumes k' := by
  refine h.announced rfl history consistent (by rw [state]; rfl) (by rw [state]; rfl) ?_ ?_ ?_ ?_
  · rw [state]
    exact h.agrees.registered
  · rw [state]
    exact h.agrees.owner
  · intro node n stamp
    rw [state, stamp_addClosure] at stamp
    simp only [Ledger.announce, Ledger.touch, Function.update_apply, h.agrees.generation]
    split at stamp
    · next new =>
      rw [if_pos new]
      exact stamp
    · next old =>
      rw [if_neg old]
      exact h.agrees.stamp node n stamp
  · intro id
    rw [or_iff_left (Ledger.not_calls (by rintro _ ⟨⟩; rfl) id), state]
    rfl

/-- The journal tells what is due after a subscription was made. -/
theorem Recorded.subscribed (h : k.Recorded) (source target : NodeId) (selector : Selector)
    (code : κ) (source_live : k.toState.contains source = true)
    (consistent : k'.toState.Consistent)
    (state : k'.toState =
      (k.toState.addEdge source target selector code).withPending k'.schedule.pending)
    (pending : ∀ id, id ∈ k'.schedule.pending ↔ id ∈ k.schedule.pending ∨
      id = k.toState.nextSubscription ∧ k.toState.stamp? source = some k.generation)
    (history : k'.history = k.history ++
      [.announced (.subscribed k.toState.nextSubscription source target selector)]) :
    k'.Recorded ∧ k.Resumes k' := by
  have schedule : k'.schedule = { k.schedule with pending := k'.schedule.pending } :=
    congrArg State.schedule state
  refine h.announced rfl history consistent (by rw [schedule]) (by rw [schedule]) ?_ ?_ ?_ ?_
  · intro id
    have entry : k'.edges.subscriptions[id]? =
        (k.toState.addEdge source target selector code).edges.subscriptions[id]? := by
      rw [state]
      rfl
    rw [entry, getElem?_subscriptions_addEdge]
    simp only [Ledger.announce, Function.update_apply]
    by_cases new : k.toState.nextSubscription = id
    · rw [if_pos new, if_pos new.symm]
      rfl
    · rw [if_neg new, if_neg (Ne.symm new)]
      exact h.agrees.registered id
  · intro d y hy
    have same : (k.toState.addEdge source target selector code).datums[d]? = some y := by
      rw [state] at hy
      exact hy
    obtain ⟨x, hx, owner⟩ :=
      (k.toState.sameTree_addEdge source target selector code).datum same
    exact (h.agrees.owner d x hx).trans owner.symm
  · intro node n stamp
    have same : (k.toState.addEdge source target selector code).stamp? node = some n := by
      rw [state] at stamp
      exact stamp
    rw [stamp_addEdge] at same
    exact h.agrees.stamp node n same
  · intro id
    rw [pending, Ledger.calls_subscribed, h.agrees.stamped source_live]

/-- The journal tells what is due after a node was changed. -/
theorem Recorded.changed (h : k.Recorded) {e : TraceEvent} {node : NodeId} {change : Change}
    (announces : e.change? = some (node, change)) (live : k.toState.contains node = true)
    (consistent : k'.toState.Consistent) (links : k.toState.SameLinks k'.toState)
    (generation : k'.schedule.generation = k.schedule.generation)
    (draining : k'.schedule.draining = k.schedule.draining)
    (stamps : ∀ n, k'.toState.stamp? n =
      if n = node then some k.generation else k.toState.stamp? n)
    (pending : ∀ id, id ∈ k'.schedule.pending ↔
      id ∈ k.schedule.pending ∨ k.toState.Hears node change id)
    (history : k'.history = k.history ++ [.announced e]) : k'.Recorded ∧ k.Resumes k' := by
  have ours : e.isOfDrain = false := by
    cases e <;> first | rfl | cases announces
  have touched : k.ledger.announce e = k.ledger.touch node := Ledger.announce_change announces
  refine h.announced ours history consistent generation draining ?_ ?_ ?_ ?_
  · rw [touched, links.edges]
    exact h.agrees.registered
  · intro d y hy
    obtain ⟨x, hx, owner⟩ := links.tree.datum hy
    rw [touched]
    exact (h.agrees.owner d x hx).trans owner.symm
  · intro n g stamp
    rw [stamps] at stamp
    rw [touched]
    simp only [Ledger.touch, Function.update_apply, h.agrees.generation]
    split at stamp
    · next here =>
      rw [if_pos here]
      exact stamp
    · next other =>
      rw [if_neg other]
      exact h.agrees.stamp n g stamp
  · intro id
    rw [pending, Ledger.calls_change announces, h.agrees.hears live]

/-- The journal tells what is due after nodes and subscriptions were removed. -/
theorem Recorded.removed (h : k.Recorded) {lost : SubscriptionId → Prop} {gone : NodeId → Prop}
    (consistent : k'.toState.Consistent)
    (state : k'.toState = (k.toState.dropEdges lost).dropNodes gone) (removes : k.Removes k') :
    k'.Recorded ∧ k.Resumes k' := by
  obtain ⟨cuts, cut⟩ := removes
  have schedule : k'.schedule = k.schedule := by
    rw [state]
    rfl
  have ledger : k'.ledger = k.ledger.without cuts := by
    rw [Kernel.ledger, cut.history, Ledger.of_append, Ledger.record_removals cut.removals]
    rfl
  refine ⟨⟨consistent, ?_, ?_, ?_, ?_⟩, ⟨by rw [schedule], fun _ => by rw [schedule],
    fun _ => by rw [ledger]; rfl, fun _ => by rw [ledger]; rfl⟩⟩
  · rw [cut.history]
    exact h.orderly.removals cut.removals
  · rw [ledger]
    exact cut.agrees h.agrees state
  · rw [schedule, cut.history]
    exact fun id => (h.due id).trans (Due.removals cut.removals).symm
  · rw [schedule, ledger]
    exact h.idle

/-- Every effect is recorded. -/
theorem Recorded.effect {change : Option (NodeId × Change)} (h : k.Recorded)
    (effect : k.Effect change k') : k'.Recorded ∧ k.Resumes k' := by
  have consistent := effect.consistent h.consistent
  cases effect with
  | still same pending history => exact h.still same pending history
  | instantiated id template state history => exact h.instantiated id template state history
  | datumCreated typeName content owner _ state history =>
    exact h.datumCreated typeName content owner consistent state history
  | closureCreated template parent _ state history =>
    exact h.closureCreated template parent consistent state history
  | subscribed source target selector code live _ state pending history =>
    exact h.subscribed source target selector code live consistent state pending history
  | changed e node change announces live links _ generation draining stamps pending history =>
    exact h.changed announces live consistent links generation draining stamps pending history
  | removed lost gone _ _ state removes => exact h.removed consistent state removes

end Kernel

end ReactiveKernel
