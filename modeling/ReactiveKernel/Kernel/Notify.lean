import ReactiveKernel.Kernel.State

/-!
# Delivery of changes

A change of a node makes the matching subscriptions of that node pending. A change of a datum
goes one step further, to the closure that owns it, and no step beyond.
-/

namespace ReactiveKernel.Kernel

variable {κ : Type}

/-- Make a subscription pending if its selector matches the change. -/
def notifyOne (source : NodeId) (change : Change) (k : Kernel κ) (id : SubscriptionId) :
    Kernel κ :=
  match k.edges.subscriptions[id]? with
  | none => k
  | some s =>
    if s.selector.accepts change && !k.schedule.pending.contains id then
      (k.mapState fun t => { t with schedule := t.schedule.enqueue id }).log (.enqueued id source)
    else k

/-- Make the matching subscriptions of a node pending. -/
def notify (k : Kernel κ) (order : EdgeOrder κ) (source : NodeId) (change : Change) : Kernel κ :=
  (k.walk order (.outgoing source) (k.outgoing source)).foldl (notifyOne source change)
    (k.note (.delivered source change))

/-- Carry a change to the owner of a datum. -/
def carry (k : Kernel κ) (order : EdgeOrder κ) (owner : ClosureId) : Kernel κ :=
  match k.closures[owner]? with
  | none => k
  | some c =>
    (k.mapState (·.putClosure owner { c with revisions := c.revisions.bumpCarried })).notify order
      (.closure owner) .carried

/-- Deliver a change of a datum to its subscriptions and to its owner. -/
def datumChanged (k : Kernel κ) (order : EdgeOrder κ) (id : DatumId) (change : Change) :
    Kernel κ :=
  let k := k.notify order (.datum id) change
  match (k.datums[id]?).bind Datum.owner with
  | none => k
  | some owner => k.carry order owner

end ReactiveKernel.Kernel
