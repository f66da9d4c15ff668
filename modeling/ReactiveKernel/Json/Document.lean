import ReactiveKernel.Json.Numeral

/-!
# Reading JSON texts

A text is first read into a `Document`, which keeps repeated keys and remembers strings and
numerals that are well formed but have no meaning. Whoever asks for such a part gets nothing;
parts that nobody asks for may hold anything well formed.
-/

namespace ReactiveKernel.Json

/-- A JSON text as it was read. -/
inductive Document where
  | null
  | bool (b : Bool)
  | number (n : Numeral)
  /-- A string; none when its escapes do not spell characters. -/
  | text (content : Option String)
  | array (items : List Document)
  /-- All members in order, repeated keys included. -/
  | object (members : List (Option String × Document))
  deriving Inhabited

namespace Document

/-- The blanks allowed between the parts of a text. -/
def isSpace (c : Char) : Bool := c == ' ' || c == '\n' || c == '\t' || c == '\r'

/-- A text without its leading blanks. -/
def skipSpace (cs : List Char) : List Char := cs.dropWhile isSpace

/-- The value of a decimal digit. -/
def digitOf (c : Char) : Nat := c.toNat - '0'.toNat

/-- The leading decimal digits and the rest. -/
def readDigits (cs : List Char) : List Nat × List Char :=
  ((cs.takeWhile Char.isDigit).map digitOf, cs.dropWhile Char.isDigit)

/-- An exponent part, if there is one. Its digits must not be missing. -/
def readExponent : List Char → Option (Option (Bool × List Nat) × List Char)
  | [] => some (none, [])
  | c :: rest =>
    if c = 'e' ∨ c = 'E' then
      let (below, rest) := match rest with
        | '+' :: r => (false, r)
        | '-' :: r => (true, r)
        | r => (false, r)
      match readDigits rest with
      | ([], _) => none
      | (digits, rest) => some (some (below, digits), rest)
    else some (none, c :: rest)

/-- A fraction part, if there is one. Its digits must not be missing. -/
def readFraction : List Char → Option (List Nat × List Char)
  | '.' :: rest =>
    match readDigits rest with
    | ([], _) => none
    | (digits, rest) => some (digits, rest)
  | rest => some ([], rest)

/-- A numeral after its sign. A leading zero stands alone. -/
def readUnsigned (negative : Bool) (cs : List Char) : Option (NumeralText × List Char) :=
  match readDigits cs with
  | ([], _) => none
  | (0 :: _ :: _, _) => none
  | (whole, rest) => do
    let (fraction, rest) ← readFraction rest
    let (exponent, rest) ← readExponent rest
    pure (⟨negative, whole, fraction, exponent⟩, rest)

/-- A numeral. -/
def readNumeral : List Char → Option (NumeralText × List Char)
  | '-' :: rest => readUnsigned true rest
  | cs => readUnsigned false cs

/-- A part of a string: a character, or a unit of sixteen bits given by an escape. -/
inductive Piece where
  | char (c : Char)
  | unit (code : Nat)
  deriving DecidableEq

/-- The value of a hexadecimal digit in either case. -/
def hexValue (c : Char) : Option Nat :=
  if '0' ≤ c ∧ c ≤ '9' then some (c.toNat - '0'.toNat)
  else if 'a' ≤ c ∧ c ≤ 'f' then some (c.toNat - 'a'.toNat + 10)
  else if 'A' ≤ c ∧ c ≤ 'F' then some (c.toNat - 'A'.toNat + 10)
  else none

/-- The unit given by four hexadecimal digits. -/
def hexUnit (a b c d : Char) : Option Nat := do
  pure ((((← hexValue a) * 16 + (← hexValue b)) * 16 + (← hexValue c)) * 16 + (← hexValue d))

/-- The character of a one-letter escape. -/
def shortEscape (c : Char) : Option Char :=
  if c = '"' ∨ c = '\\' ∨ c = '/' then some c
  else if c = 'b' then some '\x08'
  else if c = 'f' then some '\x0c'
  else if c = 'n' then some '\n'
  else if c = 'r' then some '\r'
  else if c = 't' then some '\t'
  else none

/-- The parts of a string up to its closing quote. Controls must be escaped. -/
def readPieces : List Char → Option (List Piece × List Char)
  | [] => none
  | '"' :: rest => some ([], rest)
  | '\\' :: 'u' :: a :: b :: c :: d :: rest => do
    let code ← hexUnit a b c d
    let (pieces, rest) ← readPieces rest
    pure (.unit code :: pieces, rest)
  | '\\' :: e :: rest => do
    let c ← shortEscape e
    let (pieces, rest) ← readPieces rest
    pure (.char c :: pieces, rest)
  | c :: rest =>
    if c.toNat < 0x20 then none
    else do
      let (pieces, rest) ← readPieces rest
      pure (.char c :: pieces, rest)

/-- The first unit of a pair. -/
def isLeading (code : Nat) : Bool := 0xd800 ≤ code && code < 0xdc00

/-- The second unit of a pair. -/
def isTrailing (code : Nat) : Bool := 0xdc00 ≤ code && code < 0xe000

/-- The characters spelled by the parts of a string. A leading unit needs its trailing one. -/
def assemble : List Piece → Option (List Char)
  | [] => some []
  | .char c :: rest => (assemble rest).map (c :: ·)
  | .unit high :: .unit low :: rest =>
    if isLeading high then
      if isTrailing low then
        (assemble rest).map
          (Char.ofNat (0x10000 + (high - 0xd800) * 0x400 + (low - 0xdc00)) :: ·)
      else none
    else if isTrailing high then none
    else (assemble (.unit low :: rest)).map (Char.ofNat high :: ·)
  | .unit code :: rest =>
    if isLeading code || isTrailing code then none
    else (assemble rest).map (Char.ofNat code :: ·)

/-- A string after its opening quote. -/
def readString (cs : List Char) : Option (Option String × List Char) := do
  let (pieces, rest) ← readPieces cs
  pure ((assemble pieces).map String.ofList, rest)

mutual

/-- A value at the head of a text. Every nested call spends fuel, and every second one a
character. -/
def readValue : Nat → List Char → Option (Document × List Char)
  | 0, _ => none
  | fuel + 1, cs =>
    match skipSpace cs with
    | 'n' :: 'u' :: 'l' :: 'l' :: rest => some (.null, rest)
    | 't' :: 'r' :: 'u' :: 'e' :: rest => some (.bool true, rest)
    | 'f' :: 'a' :: 'l' :: 's' :: 'e' :: rest => some (.bool false, rest)
    | '"' :: rest => do
      let (content, rest) ← readString rest
      pure (.text content, rest)
    | '[' :: rest =>
      match skipSpace rest with
      | ']' :: rest => some (.array [], rest)
      | rest => do
        let (items, rest) ← readItems fuel rest
        pure (.array items, rest)
    | '\x7b' :: rest =>
      match skipSpace rest with
      | '\x7d' :: rest => some (.object [], rest)
      | rest => do
        let (members, rest) ← readMembers fuel rest
        pure (.object members, rest)
    | rest => do
      let (numeral, rest) ← readNumeral rest
      pure (.number numeral.value, rest)

/-- The items of an array, at least one, and its closing bracket. -/
def readItems : Nat → List Char → Option (List Document × List Char)
  | 0, _ => none
  | fuel + 1, cs => do
    let (item, rest) ← readValue fuel cs
    match skipSpace rest with
    | ',' :: rest =>
      let (items, rest) ← readItems fuel rest
      pure (item :: items, rest)
    | ']' :: rest => pure ([item], rest)
    | _ => none

/-- The members of an object, at least one, and its closing brace. -/
def readMembers : Nat → List Char → Option (List (Option String × Document) × List Char)
  | 0, _ => none
  | fuel + 1, cs =>
    match skipSpace cs with
    | '"' :: rest => do
      let (key, rest) ← readString rest
      match skipSpace rest with
      | ':' :: rest =>
        let (value, rest) ← readValue fuel rest
        match skipSpace rest with
        | ',' :: rest =>
          let (members, rest) ← readMembers fuel rest
          pure ((key, value) :: members, rest)
        | '\x7d' :: rest => pure ([(key, value)], rest)
        | _ => none
      | _ => none
    | _ => none

end

/-- Read a whole text: one value with nothing but blanks around it. -/
def read (s : String) : Option Document := do
  let cs := s.toList
  let (d, rest) ← readValue (2 * cs.length + 2) cs
  if (skipSpace rest).isEmpty then pure d else none

/-- A natural number of one word. -/
def asNat : Document → Option Nat
  | .number (.integer n) => if 0 ≤ n then some n.toNat else none
  | _ => none

/-- A signed integer of one word. -/
def asInt64 : Document → Option Int64
  | .number (.integer n) => if n < twoTo 63 then some (Int64.ofInt n) else none
  | _ => none

/-- A double; integers are rounded to one. -/
def asFloat : Document → Option Binary64
  | .number (.integer n) => some (.ofInt n)
  | .number (.float x) => x
  | _ => none

/-- A truth value. -/
def asBool : Document → Option Bool
  | .bool b => some b
  | _ => none

/-- A string that spells characters. -/
def asText : Document → Option String
  | .text content => content
  | _ => none

/-- The value null. -/
def asNull : Document → Option Unit
  | .null => some ()
  | _ => none

/-- The items of an array. -/
def asArray : Document → Option (List Document)
  | .array items => some items
  | _ => none

/-- The single name of a case without content: a string, or an object that gives it null. -/
def asName : Document → Option String
  | .text content => content
  | .object [(key, .null)] => key
  | _ => none

/-- The single name and content of a case with content. -/
def asCase : Document → Option (String × Document)
  | .object [(some key, content)] => some (key, content)
  | _ => none

/-- The first member with some key. -/
def member? (key : String) : Document → Option Document
  | .object members => (members.find? fun m => m.1 == some key).map (·.2)
  | _ => none

end Document

end ReactiveKernel.Json
