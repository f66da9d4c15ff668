import ReactiveKernel.Identity
import ReactiveKernel.Number.Layout
import ReactiveKernel.Text.Term

/-!
# Values

A field or an item holds a plain value or the identity of another datum. Equality is shallow:
datums are compared by identity, doubles as numbers. A NaN is therefore never equal to what is
stored, and writing it always counts as a change.
-/

namespace ReactiveKernel

/-- What a field or an item holds. -/
inductive Value where
  | null
  | bool (b : Bool)
  | int (n : Int64)
  | float (x : Binary64)
  | text (s : String)
  /-- Another datum, by identity. -/
  | datum (id : DatumId)
  deriving DecidableEq, Inhabited

namespace Value

/-- Equality as seen by change detection. -/
def same : Value → Value → Bool
  | .null, .null => true
  | .bool a, .bool b => a == b
  | .int a, .int b => a == b
  | .float a, .float b => a.ieeeEq b
  | .text a, .text b => a == b
  | .datum a, .datum b => a == b
  | _, _ => false

/-- Equality of optional values as seen by change detection. -/
def sameOption : Option Value → Option Value → Bool
  | none, none => true
  | some a, some b => a.same b
  | _, _ => false

/-- Whether the value is null. -/
def isNull : Value → Bool
  | .null => true
  | _ => false

/-- Whether the value is another datum. -/
def isComposite : Value → Bool
  | .datum _ => true
  | _ => false

/-- The truth value, if it is one. -/
def asBool : Value → Option Bool
  | .bool b => some b
  | _ => none

/-- The integer, if it is one. -/
def asInt : Value → Option Int64
  | .int n => some n
  | _ => none

/-- The number as a double; an integer is rounded to one. -/
def asFloat : Value → Option Binary64
  | .float x => some x
  | .int n => some (.ofInt n.toInt)
  | _ => none

/-- The text, if it is one. -/
def asText : Value → Option String
  | .text s => some s
  | _ => none

/-- The datum, if it is one. -/
def asDatum : Value → Option DatumId
  | .datum id => some id
  | _ => none

/-- A value as shown to a reader. -/
def display : Value → String
  | .null => "null"
  | .bool true => "true"
  | .bool false => "false"
  | .int n => toString n.toInt
  | .float x => String.ofList (Layout.plain.write x)
  | .text s => Text.quoted s
  | .datum id => id.display

/-- A value in constructor notation. -/
def term : Value → Text.Term
  | .null => .atom "Null"
  | .bool b => .applied "Bool" [.bool b]
  | .int n => .applied "Int" [.atom (toString n.toInt)]
  | .float x => .applied "Float" [.atom (String.ofList (Layout.notated.write x))]
  | .text s => .applied "Str" [.text s]
  | .datum id => .applied "Datum" [.applied "DatumId" [.nat id.raw]]

end Value

/-- Named values. An absent field reads as null. -/
abbrev FieldMap := Std.ExtTreeMap String Value

/-- The fields with others added; of a repeated name the last value counts. -/
def FieldMap.insertAll (fields : FieldMap) (entries : List (String × Value)) : FieldMap :=
  entries.foldl (fun fields (name, value) => fields.insert name value) fields

/-- The fields given by a list of names and values. -/
def FieldMap.ofEntries (entries : List (String × Value)) : FieldMap := FieldMap.insertAll ∅ entries

end ReactiveKernel
