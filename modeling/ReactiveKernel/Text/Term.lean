import ReactiveKernel.Text.Quoted

/-!
# Constructor notation

The form in which structured values appear in logs: a constructor's name with its arguments in
parentheses or its named fields in braces, and lists, sets and maps in brackets.
-/

namespace ReactiveKernel.Text

/-- A value in constructor notation. -/
inductive Term where
  /-- A number, a truth value or a constructor without arguments. -/
  | atom (text : String)
  /-- A quoted text. -/
  | text (content : String)
  /-- A constructor with positional arguments. -/
  | applied (name : String) (arguments : List Term)
  /-- A constructor with named fields; `more` marks fields that are left out. -/
  | record (name : String) (fields : List (String × Term)) (more : Bool)
  /-- A sequence. -/
  | list (items : List Term)
  /-- A set, its members in order. -/
  | set (items : List Term)
  /-- A map, its entries in order. -/
  | map (entries : List (Term × Term))

namespace Term

/-- A natural number. -/
def nat (n : Nat) : Term := .atom (toString n)

/-- A truth value. -/
def bool (b : Bool) : Term := .atom (if b then "true" else "false")

/-- An optional value. -/
def option : Option Term → Term
  | none => .atom "None"
  | some t => .applied "Some" [t]

/-- Texts with a separator between neighbours. -/
def separated (pieces : List String) : String := ", ".intercalate pieces

mutual

/-- The written form of a value. -/
def render : Term → String
  | .atom written => written
  | .text content => quoted content
  | .applied name arguments => name ++ "(" ++ separated (renderAll arguments) ++ ")"
  | .record name [] true => name ++ " \x7b .. \x7d"
  | .record name [] false => name
  | .record name (field :: rest) more =>
    name ++ " \x7b " ++ separated (renderFields (field :: rest)) ++
      (if more then ", .." else "") ++ " \x7d"
  | .list items => "[" ++ separated (renderAll items) ++ "]"
  | .set items => "\x7b" ++ separated (renderAll items) ++ "\x7d"
  | .map entries => "\x7b" ++ separated (renderEntries entries) ++ "\x7d"

/-- The written forms of the members of a sequence. -/
def renderAll : List Term → List String
  | [] => []
  | t :: rest => t.render :: renderAll rest

/-- Named fields, each as a name and a value. -/
def renderFields : List (String × Term) → List String
  | [] => []
  | (name, t) :: rest => (name ++ ": " ++ t.render) :: renderFields rest

/-- Map entries, each as a key and a value. -/
def renderEntries : List (Term × Term) → List String
  | [] => []
  | (key, t) :: rest => (key.render ++ ": " ++ t.render) :: renderEntries rest

end

end Term

/-! The name of a constructor in small letters, with an underscore between neighbouring words. -/

/-- A character behind the first: a capital starts a word. -/
def snakeCaseChar (c : Char) : List Char := if c.isUpper then ['_', c.toLower] else [c]

/-- A name with capitals in small letters. -/
def snakeCase (name : String) : String :=
  match name.toList with
  | [] => ""
  | c :: rest => String.ofList (c.toLower :: rest.flatMap snakeCaseChar)

end ReactiveKernel.Text
