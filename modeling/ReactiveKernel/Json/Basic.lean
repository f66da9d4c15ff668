import ReactiveKernel.Number.Layout

/-!
# JSON values and their text

A JSON value keeps the order of an object's members. Its compact text has no spaces; its
indented text puts every member and item on a line of its own. A number without a finite value
is written as null.
-/

namespace ReactiveKernel

/-- A JSON value. -/
inductive Json where
  | null
  | bool (b : Bool)
  | int (n : Int)
  | float (x : Binary64)
  | text (s : String)
  | array (items : List Json)
  /-- The members in the order of writing. -/
  | object (members : List (String × Json))
  deriving Inhabited

namespace Json

/-- A natural number. -/
def nat (n : Nat) : Json := .int n

/-- An optional value, null when missing. -/
def option : Option Json → Json
  | none => .null
  | some j => j

/-- One character inside a JSON string: the quote, the backslash and the controls are escaped. -/
def escapedChar (c : Char) : List Char :=
  if c = '"' then ['\\', '"']
  else if c = '\\' then ['\\', '\\']
  else if c = '\x08' then ['\\', 'b']
  else if c = '\x0c' then ['\\', 'f']
  else if c = '\n' then ['\\', 'n']
  else if c = '\r' then ['\\', 'r']
  else if c = '\t' then ['\\', 't']
  else if c.toNat < 0x20 then
    ['\\', 'u', '0', '0', Nat.digitChar (c.toNat / 16), Nat.digitChar (c.toNat % 16)]
  else [c]

/-- A JSON string with its quotes. -/
def stringChars (s : String) : List Char := '"' :: s.toList.flatMap escapedChar ++ ['"']

/-- A number, or null when it has no finite value. -/
def floatChars (x : Binary64) : List Char :=
  if x.isFinite then Layout.json.writeFinite x else ['n', 'u', 'l', 'l']

/-- Pieces with a comma between neighbours. -/
def commaSeparated (pieces : List (List Char)) : List Char := [','].intercalate pieces

mutual

/-- The compact text of a value. -/
def chars : Json → List Char
  | .null => ['n', 'u', 'l', 'l']
  | .bool true => ['t', 'r', 'u', 'e']
  | .bool false => ['f', 'a', 'l', 's', 'e']
  | .int n => Layout.intDigits n
  | .float x => floatChars x
  | .text s => stringChars s
  | .array items => '[' :: commaSeparated (itemChars items) ++ [']']
  | .object members => '\x7b' :: commaSeparated (memberChars members) ++ ['\x7d']

/-- The compact texts of the items of an array. -/
def itemChars : List Json → List (List Char)
  | [] => []
  | j :: rest => j.chars :: itemChars rest

/-- The compact texts of the members of an object. -/
def memberChars : List (String × Json) → List (List Char)
  | [] => []
  | (key, j) :: rest => (stringChars key ++ ':' :: j.chars) :: memberChars rest

end

/-- The compact text of a value. -/
def render (j : Json) : String := String.ofList j.chars

/-- A new line indented by two spaces for each level. -/
def newLine (depth : Nat) : List Char := '\n' :: List.replicate (2 * depth) ' '

mutual

/-- The indented text of a value that stands at some depth. -/
def indented (depth : Nat) : Json → List Char
  | .array [] => ['[', ']']
  | .array (item :: rest) =>
    '[' :: commaSeparated (indentedItems (depth + 1) (item :: rest)) ++ newLine depth ++ [']']
  | .object [] => ['\x7b', '\x7d']
  | .object (member :: rest) =>
    '\x7b' :: commaSeparated (indentedMembers (depth + 1) (member :: rest)) ++ newLine depth ++
      ['\x7d']
  | .null => ['n', 'u', 'l', 'l']
  | .bool true => ['t', 'r', 'u', 'e']
  | .bool false => ['f', 'a', 'l', 's', 'e']
  | .int n => Layout.intDigits n
  | .float x => floatChars x
  | .text s => stringChars s

/-- The items of an array, each on a line of its own. -/
def indentedItems (depth : Nat) : List Json → List (List Char)
  | [] => []
  | j :: rest => (newLine depth ++ j.indented depth) :: indentedItems depth rest

/-- The members of an object, each on a line of its own. -/
def indentedMembers (depth : Nat) : List (String × Json) → List (List Char)
  | [] => []
  | (key, j) :: rest =>
    (newLine depth ++ stringChars key ++ [':', ' '] ++ j.indented depth) ::
      indentedMembers depth rest

end

/-- The indented text of a value. -/
def renderIndented (j : Json) : String := String.ofList (j.indented 0)

end Json

end ReactiveKernel
