import ReactiveKernel.Kernel.State

/-!
# Making and removing subscriptions

A live subscription stands in the table of edges and in the sets of its two ends. One that is
made after its source changed in the current generation has missed that change, so it is
pending from the start.
-/

namespace ReactiveKernel

variable {κ : Type}

namespace State

/-- Enter a subscription into the sets of its two ends. -/
def linkEdge (s : State κ) (id : SubscriptionId) (source target : NodeId) : State κ :=
  let s := match source with
    | .datum d => s.updateDatum d fun x => { x with outgoing := x.outgoing.insert id }
    | .closure c => s.updateClosure c fun x => { x with outgoing := x.outgoing.insert id }
  match target with
  | .datum _ => s
  | .closure c => s.updateClosure c fun x => { x with incoming := x.incoming.insert id }

/-- Take a subscription out of the sets of its two ends. -/
def unlinkEdge (s : State κ) (id : SubscriptionId) (source target : NodeId) : State κ :=
  let s := match source with
    | .datum d => s.updateDatum d fun x => { x with outgoing := x.outgoing.erase id }
    | .closure c => s.updateClosure c fun x => { x with outgoing := x.outgoing.erase id }
  match target with
  | .datum _ => s
  | .closure c => s.updateClosure c fun x => { x with incoming := x.incoming.erase id }

end State

namespace Kernel

/-- Make a new subscription pending if its source changed in the current generation. -/
def catchUp (k : Kernel κ) (id : SubscriptionId) (source : NodeId) (changedAt : Nat) : Kernel κ :=
  if changedAt == k.generation && !k.schedule.pending.contains id then
    (k.mapState fun s => { s with schedule := s.schedule.enqueue id }).log (.caughtUp id source)
  else k

/-- Make a subscription. -/
def subscribe (k : Kernel κ) (source target : NodeId) (selector : Selector) (code : κ) :
    Except Fault (SubscriptionId × Kernel κ) := do
  let changedAt ← k.setGenerationOf source
  k.requireNode target
  let id : SubscriptionId := ⟨k.counters.subscriptions⟩
  let function : FunctionId := ⟨k.counters.functions⟩
  let k := k.mapState fun s =>
    State.linkEdge { s with counters := { s.counters with
      subscriptions := s.counters.subscriptions + 1
      functions := s.counters.functions + 1 } } id source target
  let k := k.emit (.subscribed id source target selector)
  let k := k.mapState fun s =>
    { s with edges := s.edges.insert id ⟨source, target, selector, function⟩ code }
  return (id, k.catchUp id source changedAt)

/-- Remove a subscription if it is live. -/
def removeEdge (k : Kernel κ) (id : SubscriptionId) : Kernel κ :=
  match k.edges.subscriptions[id]? with
  | none => k
  | some s =>
    (k.mapState fun t =>
      State.unlinkEdge { t with edges := t.edges.erase id s } id s.source s.target).emit
      (.unsubscribed id)

/-- Remove a subscription. The answer is whether it was live. -/
def unsubscribe (k : Kernel κ) (id : SubscriptionId) : Bool × Kernel κ :=
  (k.edges.subscriptions.contains id, k.removeEdge id)

/-- Remove several subscriptions. -/
def removeEdges (k : Kernel κ) (ids : List SubscriptionId) : Kernel κ := ids.foldl removeEdge k

end Kernel

end ReactiveKernel
