import ReactiveKernel.Node.Basic

/-!
# Closures

A closure is one instance of a template. It has a place in the tree of instances, fields that
can be subscribed to, and lists of everything that has to go when it is destroyed.
-/

namespace ReactiveKernel

/-- A live closure. -/
structure Closure where
  /-- Name of its template. -/
  template : String
  /-- The closure above it in the tree. -/
  parent : Option ClosureId
  /-- The closures below it, oldest first. -/
  children : List ClosureId
  /-- The subscriptions whose source it is. -/
  outgoing : SubscriptionSet
  /-- The subscriptions whose target it is. -/
  incoming : SubscriptionSet
  /-- The datums that are destroyed with it, oldest first. -/
  owned : List DatumId
  /-- Its fields. -/
  fields : FieldMap
  /-- Its revision counters. -/
  revisions : Revisions
  /-- Generation of its last change; creation counts as one. -/
  setGeneration : Nat

namespace Closure

/-- A new closure. -/
def create (template : String) (parent : Option ClosureId) (generation : Nat) : Closure :=
  { template, parent
    children := []
    outgoing := ∅
    incoming := ∅
    owned := []
    fields := ∅
    revisions := .initial
    setGeneration := generation }

/-- The closure after an effective change of its own fields. -/
def touch (c : Closure) (generation : Nat) : Closure :=
  { c with revisions := c.revisions.bumpStructural, setGeneration := generation }

end Closure

end ReactiveKernel
