import ReactiveKernel.Value

/-!
# Parts common to nodes

Shapes of datums, availability with its error, and the two revision counters that every node
carries.
-/

namespace ReactiveKernel

/-- The two kinds of datum. -/
inductive Shape where
  /-- Named fields. -/
  | record
  /-- An ordered list of items. -/
  | collection
  deriving DecidableEq

/-- Name of a shape in messages. -/
def Shape.display : Shape → String
  | .record => "record"
  | .collection => "collection"

/-- Whether a datum's content can be used. -/
inductive Availability where
  | loading
  | ready
  | error
  deriving DecidableEq

namespace Availability

/-- Name of an availability in data. -/
def name : Availability → String
  | .loading => "loading"
  | .ready => "ready"
  | .error => "error"

/-- An availability in constructor notation. -/
def term : Availability → Text.Term
  | .loading => .atom "Loading"
  | .ready => .atom "Ready"
  | .error => .atom "Error"

end Availability

/-- The availability of a datum. Only a failed one has an error payload. -/
inductive Status where
  | loading
  | ready
  | failed (payload : Option Value)
  deriving DecidableEq

namespace Status

/-- The availability without its payload. -/
def availability : Status → Availability
  | .loading => .loading
  | .ready => .ready
  | .failed _ => .error

/-- The error payload. -/
def payload : Status → Option Value
  | .failed payload => payload
  | _ => none

/-- Equality as seen by change detection. -/
def same (a b : Status) : Bool :=
  a.availability == b.availability && Value.sameOption a.payload b.payload

/-- The status after a request for an availability. A failed datum that is to fail again keeps
its payload. -/
def withAvailability (status : Status) : Availability → Status
  | .loading => .loading
  | .ready => .ready
  | .error => .failed status.payload

end Status

/-- The revision counters of a node. -/
structure Revisions where
  /-- Changes of the node itself. -/
  structural : Nat
  /-- Changes of the node or of a datum it owns. -/
  carried : Nat
  deriving DecidableEq

namespace Revisions

/-- The counters of a new node. -/
def initial : Revisions := ⟨1, 1⟩

/-- The counters after a change of the node itself. -/
def bumpStructural (r : Revisions) : Revisions := ⟨r.structural + 1, r.carried + 1⟩

/-- The counters after a change of an owned datum. -/
def bumpCarried (r : Revisions) : Revisions := ⟨r.structural, r.carried + 1⟩

end Revisions

end ReactiveKernel
