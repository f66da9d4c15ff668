import ReactiveKernel.Interchange

/-!
# Subscriptions

A subscription is an edge from a source to a target with a selector and a callback. The table
of edges also finds those that end at a datum, so that they can be removed with it.
-/

namespace ReactiveKernel

/-- What a callback is told. -/
structure Notification where
  /-- The subscription that fired. -/
  subscription : SubscriptionId
  /-- Where the change happened. -/
  source : NodeId
  /-- The node on whose behalf the callback runs. -/
  target : NodeId
  /-- The generation of the wave. -/
  generation : Nat
  deriving DecidableEq

/-- A filtered edge between two nodes. -/
structure Subscription where
  /-- Node whose changes are observed. -/
  source : NodeId
  /-- Node on whose behalf they are observed. -/
  target : NodeId
  /-- Which changes count. -/
  selector : Selector
  /-- The function to call. -/
  callback : FunctionId

namespace Subscription

/-- Whether a node is one of the two ends. -/
def references (s : Subscription) (node : NodeId) : Bool := s.source == node || s.target == node

/-- A subscription as an object. -/
def toJson (s : Subscription) (id : SubscriptionId) : Json :=
  .object [("id", id.toJson), ("source", s.source.toJson), ("target", s.target.toJson),
    ("selector", s.selector.toJson), ("callback", s.callback.toJson)]

end Subscription

/-- All live subscriptions and their callbacks. -/
structure EdgeTable (κ : Type) where
  /-- Subscriptions by identity. -/
  subscriptions : Std.ExtTreeMap SubscriptionId Subscription
  /-- Host code of each callback. -/
  functions : Std.ExtTreeMap FunctionId κ
  /-- The subscriptions that end at each datum; a datum without any has no entry. -/
  datumTargets : Std.ExtTreeMap DatumId SubscriptionSet

variable {κ : Type}

namespace EdgeTable

/-- No subscriptions. -/
def empty : EdgeTable κ := ⟨∅, ∅, ∅⟩

/-- The subscriptions that end at a datum. -/
def targeting (t : EdgeTable κ) (id : DatumId) : SubscriptionSet := (t.datumTargets[id]?).getD ∅

/-- The index of targets with one more subscription. -/
def addTarget (targets : Std.ExtTreeMap DatumId SubscriptionSet) (id : SubscriptionId) :
    NodeId → Std.ExtTreeMap DatumId SubscriptionSet
  | .datum d => targets.insert d (((targets[d]?).getD ∅).insert id)
  | .closure _ => targets

/-- The index of targets with one subscription less. An entry that becomes empty is dropped. -/
def dropTarget (targets : Std.ExtTreeMap DatumId SubscriptionSet) (id : SubscriptionId) :
    NodeId → Std.ExtTreeMap DatumId SubscriptionSet
  | .datum d =>
    match targets[d]? with
    | none => targets
    | some ids =>
      if (ids.erase id).isEmpty then targets.erase d
      else targets.insert d (ids.erase id)
  | .closure _ => targets

/-- The table with one more subscription. -/
def insert (t : EdgeTable κ) (id : SubscriptionId) (s : Subscription) (code : κ) : EdgeTable κ :=
  { subscriptions := t.subscriptions.insert id s
    functions := t.functions.insert s.callback code
    datumTargets := addTarget t.datumTargets id s.target }

/-- The table without a subscription and its callback. -/
def erase (t : EdgeTable κ) (id : SubscriptionId) (s : Subscription) : EdgeTable κ :=
  { subscriptions := t.subscriptions.erase id
    functions := t.functions.erase s.callback
    datumTargets := dropTarget t.datumTargets id s.target }

/-- A live subscription with its callback. -/
def callback? (t : EdgeTable κ) (id : SubscriptionId) : Option (Subscription × κ) := do
  let s ← t.subscriptions[id]?
  let code ← t.functions[s.callback]?
  pure (s, code)

end EdgeTable

end ReactiveKernel
