import ReactiveKernel.Value

/-!
# Changes and the selectors that filter them

Every effective mutation is one change of its node. A change of a datum also reaches the closure
that owns it, as a carried change. A subscription is notified of the changes that its selector
matches.
-/

namespace ReactiveKernel

/-- What happened to a node. -/
inductive Change where
  /-- A field got a new value. -/
  | field (name : String)
  /-- The list of items changed. -/
  | items
  /-- The availability or its error changed. -/
  | availability
  /-- A datum owned by the closure changed. -/
  | carried
  deriving DecidableEq

namespace Change

/-- Whether the node itself changed. -/
def isStructural : Change → Bool
  | .carried => false
  | _ => true

/-- The field that changed, if it was a field. -/
def fieldName : Change → Option String
  | .field name => some name
  | _ => none

end Change

/-- A filter on changes. -/
inductive Selector where
  | everything
  /-- Changes of the node itself. -/
  | structural
  /-- Changes of datums owned by the node. -/
  | carried
  /-- One field. -/
  | key (name : String)
  /-- Any field of a set. -/
  | oneOf (names : Std.ExtTreeSet String)

namespace Selector

/-- The selector of a list of field names. -/
def ofNames (names : List String) : Selector := .oneOf (Std.ExtTreeSet.ofList names)

/-- Whether a subscription with this selector is notified of a change. -/
def accepts : Selector → Change → Bool
  | .everything, _ => true
  | .structural, change => change.isStructural
  | .carried, change => !change.isStructural
  | .key name, change => change.fieldName == some name
  | .oneOf names, change => change.fieldName.any (names.contains ·)

/-- A selector in constructor notation. -/
def term : Selector → Text.Term
  | .everything => .atom "Everything"
  | .structural => .atom "Structural"
  | .carried => .atom "Carried"
  | .key name => .applied "Key" [.text name]
  | .oneOf names => .applied "OneOf" [.set (names.toList.map .text)]

end Selector

end ReactiveKernel
