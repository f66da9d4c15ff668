import ReactiveKernel.Change
import ReactiveKernel.Json.Basic
import ReactiveKernel.Json.Document
import ReactiveKernel.Node.Basic

/-!
# JSON forms of values, selectors and identities

A value is an object of its kind and its content; null has no content. A selector or a node is
the name of its case, with its content as the single member of an object where it has one.
Identities are raw numbers, checked for parity when read.
-/

namespace ReactiveKernel

open Json (Document)

namespace DatumId

/-- A datum is written as its raw number. -/
def toJson (id : DatumId) : Json := .nat id.raw

/-- Read a datum's raw number, which must be even. -/
def ofDocument? (d : Document) : Option DatumId := d.asNat.bind ofRaw?

/-- A datum's identity in constructor notation. -/
def term (id : DatumId) : Text.Term := .applied "DatumId" [.nat id.raw]

end DatumId

namespace ClosureId

/-- A closure is written as its raw number. -/
def toJson (id : ClosureId) : Json := .nat id.raw

/-- Read a closure's raw number, which must be odd. -/
def ofDocument? (d : Document) : Option ClosureId := d.asNat.bind ofRaw?

/-- A closure's identity in constructor notation. -/
def term (id : ClosureId) : Text.Term := .applied "ClosureId" [.nat id.raw]

end ClosureId

namespace SubscriptionId

/-- A subscription is written as its raw number. -/
def toJson (id : SubscriptionId) : Json := .nat id.raw

/-- Read a subscription's raw number. -/
def ofDocument? (d : Document) : Option SubscriptionId := d.asNat.map .mk

/-- A subscription's identity in constructor notation. -/
def term (id : SubscriptionId) : Text.Term := .applied "SubscriptionId" [.nat id.raw]

end SubscriptionId

namespace FunctionId

/-- A function is written as its raw number. -/
def toJson (id : FunctionId) : Json := .nat id.raw

/-- Read a function's raw number. -/
def ofDocument? (d : Document) : Option FunctionId := d.asNat.map .mk

end FunctionId

namespace NodeId

/-- A node is written as its raw number under the name of its family. -/
def toJson : NodeId → Json
  | .datum id => .object [(NodeFamily.datum.name, id.toJson)]
  | .closure id => .object [(NodeFamily.closure.name, id.toJson)]

/-- Read a node. -/
def ofDocument? (d : Document) : Option NodeId := do
  let (family, content) ← d.asCase
  if family = NodeFamily.datum.name then (DatumId.ofDocument? content).map .datum
  else if family = NodeFamily.closure.name then (ClosureId.ofDocument? content).map .closure
  else none

/-- A node in constructor notation. -/
def term : NodeId → Text.Term
  | .datum id => .applied "Datum" [id.term]
  | .closure id => .applied "Closure" [id.term]

end NodeId

namespace Value

/-- Name of a value's kind in data. -/
def kind : Value → String
  | .null => "null"
  | .bool _ => "bool"
  | .int _ => "int"
  | .float _ => "float"
  | .text _ => "str"
  | .datum _ => "datum"

/-- A value as its kind and its content. -/
def toJson : Value → Json
  | .null => .object [("kind", .text "null")]
  | .bool b => .object [("kind", .text "bool"), ("value", .bool b)]
  | .int n => .object [("kind", .text "int"), ("value", .int n.toInt)]
  | .float x => .object [("kind", .text "float"), ("value", .float x)]
  | .text s => .object [("kind", .text "str"), ("value", .text s)]
  | .datum id => .object [("kind", .text "datum"), ("value", id.toJson)]

/-- Read the content of a value of some kind. -/
def ofContent? (kind : String) (content : Document) : Option Value :=
  if kind = "null" then content.asNull.map fun _ => .null
  else if kind = "bool" then content.asBool.map .bool
  else if kind = "int" then content.asInt64.map .int
  else if kind = "float" then content.asFloat.map .float
  else if kind = "str" then content.asText.map .text
  else if kind = "datum" then (DatumId.ofDocument? content).map .datum
  else none

/-- Read the two members of a value, in either order. The kind is the name of a case. A value
without content must be null. -/
def ofMembers? : List (String × Document) → Option Value
  | [("kind", k)] => do
    if (← k.asName) = "null" then some .null else none
  | [("kind", k), ("value", content)] => do ofContent? (← k.asName) content
  | [("value", content), ("kind", k)] => do ofContent? (← k.asName) content
  | _ => none

/-- Read a value: an object of kind and content, where other members are passed over, or the two
in a list, where the kind is a string. -/
def ofDocument? : Document → Option Value
  | .object members => do
    let members ← members.mapM fun (key, d) => key.map fun key => (key, d)
    ofMembers? (members.filter fun m => m.1 == "kind" || m.1 == "value")
  | .array [k, content] => do ofContent? (← k.asText) content
  | _ => none

end Value

namespace Selector

/-- A selector as the name of its case, with the field or fields where it has them. -/
def toJson : Selector → Json
  | .everything => .text "everything"
  | .structural => .text "structural"
  | .carried => .text "carried"
  | .key name => .object [("key", .text name)]
  | .oneOf names => .object [("one_of", .array (names.toList.map .text))]

/-- Read a selector without fields. -/
def ofName? (name : String) : Option Selector :=
  if name = "everything" then some .everything
  else if name = "structural" then some .structural
  else if name = "carried" then some .carried
  else none

/-- Read a selector with fields. -/
def ofCase? (name : String) (content : Document) : Option Selector :=
  if name = "key" then content.asText.map .key
  else if name = "one_of" then do
    return .ofNames (← (← content.asArray).mapM Document.asText)
  else none

/-- Read a selector. -/
def ofDocument? (d : Document) : Option Selector :=
  (d.asName.bind ofName?).or (d.asCase.bind fun (name, content) => ofCase? name content)

end Selector

namespace Availability

/-- An availability as its name. -/
def toJson (a : Availability) : Json := .text a.name

/-- The availability of some name. -/
def ofName? (name : String) : Option Availability :=
  if name = "loading" then some .loading
  else if name = "ready" then some .ready
  else if name = "error" then some .error
  else none

/-- Read an availability. -/
def ofDocument? (d : Document) : Option Availability := d.asName.bind ofName?

end Availability

namespace Shape

/-- A shape as its name. -/
def toJson (s : Shape) : Json := .text s.display

/-- Read a shape. -/
def ofDocument? (d : Document) : Option Shape := do
  let name ← d.asName
  if name = "record" then some .record
  else if name = "collection" then some .collection
  else none

end Shape

/-- Revision counters as an object. -/
def Revisions.toJson (r : Revisions) : Json :=
  .object [("structural", .nat r.structural), ("carried", .nat r.carried)]

/-- Fields as an object in ascending order of their names. -/
def FieldMap.toJson (fields : FieldMap) : Json :=
  .object (fields.toList.map fun (name, value) => (name, value.toJson))

end ReactiveKernel
