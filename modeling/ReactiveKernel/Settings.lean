import ReactiveKernel.Number.Binary64
import ReactiveKernel.Text.Term

/-!
# Settings

The limit of waves in one drain, the template to run when none is named, and what happens when
a callback fails. A host may give them as variables; one that cannot be read is passed over
with a warning.
-/

namespace ReactiveKernel

namespace Text

/-- The characters of the property White_Space. -/
def isBlank (c : Char) : Bool :=
  let n := c.toNat
  (0x9 ≤ n && n ≤ 0xd) || n == 0x20 || n == 0x85 || n == 0xa0 || n == 0x1680 ||
    (0x2000 ≤ n && n ≤ 0x200a) || n == 0x2028 || n == 0x2029 || n == 0x202f || n == 0x205f ||
    n == 0x3000

/-- A list of characters without the blanks at its ends. -/
def trimChars (cs : List Char) : List Char :=
  ((cs.dropWhile isBlank).reverse.dropWhile isBlank).reverse

/-- A text without the blanks at its ends. -/
def trim (s : String) : String := String.ofList (trimChars s.toList)

/-- A text with the letters `A` to `Z` in lower case. -/
def lowerAscii (s : String) : String := String.ofList (s.toList.map Char.toLower)

end Text

/-- What a drain does when a callback fails. -/
inductive FailurePolicy where
  /-- Report the failure and go on. -/
  | log
  /-- Stop the drain and drop what is pending. -/
  | abort
  deriving DecidableEq

namespace FailurePolicy

/-- Name of a policy in constructor notation. -/
def name : FailurePolicy → String
  | .log => "Log"
  | .abort => "Abort"

/-- Read a policy. Blanks around it and the case of letters do not matter; the error is the text
of the refusal. -/
def ofText (s : String) : Except String FailurePolicy :=
  let word := Text.lowerAscii (Text.trim s)
  if word = "log" ∨ word = "continue" then .ok .log
  else if word = "abort" ∨ word = "fail" then .ok .abort
  else .error ("unknown callback error policy: " ++ word)

end FailurePolicy

/-- The settings of a kernel. -/
structure Settings where
  /-- Most waves that one drain may run, at least one. -/
  waveLimit : Nat
  /-- Name by which the entry template is found. -/
  entryTemplate : String
  /-- What happens when a callback fails. -/
  onFailure : FailurePolicy
  deriving DecidableEq

/-- A variable that was passed over. -/
inductive IgnoredSetting where
  /-- The limit is not a number. -/
  | waveLimit (value : String)
  /-- The policy is unknown. -/
  | onFailure (refusal : String)
  deriving DecidableEq

namespace Settings

/-- The settings of a host that gives none. -/
def standard : Settings := ⟨1000, "Main", .log⟩

/-- Settings with another limit, raised to one if it is zero. -/
def withWaveLimit (s : Settings) (limit : Nat) : Settings := { s with waveLimit := max limit 1 }

/-- Settings with another entry template. -/
def withEntryTemplate (s : Settings) (name : String) : Settings := { s with entryTemplate := name }

/-- Settings with another failure policy. -/
def withOnFailure (s : Settings) (policy : FailurePolicy) : Settings :=
  { s with onFailure := policy }

/-- Read decimal digits, at least one. -/
def digits? : List Char → Option Nat
  | [] => none
  | cs =>
    if cs.all Char.isDigit then some (cs.foldl (fun n c => n * 10 + (c.toNat - '0'.toNat)) 0)
    else none

/-- Read a limit: decimal digits after an optional plus sign, at most one word. -/
def limit? (s : String) : Option Nat :=
  let value := match s.toList with
    | '+' :: rest => digits? rest
    | cs => digits? cs
  value.filter (· < twoTo 64)

/-- Variable that holds the limit of waves. -/
def waveLimitKey : String := "FREL_GEN_LIMIT"

/-- Variable that holds the entry template. -/
def entryTemplateKey : String := "FREL_ENTRY_TEMPLATE"

/-- Variable that holds the failure policy. -/
def onFailureKey : String := "FREL_CALLBACK_ERRORS"

/-- Apply the variable of the limit. -/
def readWaveLimit (s : Settings) : Option String → Settings × List IgnoredSetting
  | none => (s, [])
  | some value =>
    match limit? (Text.trim value) with
    | some limit => (s.withWaveLimit limit, [])
    | none => (s, [.waveLimit value])

/-- Apply the variable of the entry template, unless it is blank. -/
def readEntryTemplate (s : Settings) : Option String → Settings
  | none => s
  | some value =>
    let name := Text.trim value
    if name.isEmpty then s else s.withEntryTemplate name

/-- Apply the variable of the failure policy. -/
def readOnFailure (s : Settings) : Option String → Settings × List IgnoredSetting
  | none => (s, [])
  | some value =>
    match FailurePolicy.ofText value with
    | .ok policy => (s.withOnFailure policy, [])
    | .error refusal => (s, [.onFailure refusal])

/-- The settings given by a host's variables, and what was passed over. -/
def ofVariables (lookup : String → Option String) : Settings × List IgnoredSetting :=
  let (s, first) := standard.readWaveLimit (lookup waveLimitKey)
  let (s, second) := (s.readEntryTemplate (lookup entryTemplateKey)).readOnFailure
    (lookup onFailureKey)
  (s, first ++ second)

/-- Settings in constructor notation. -/
def term (s : Settings) : Text.Term :=
  .record "RuntimeConfig"
    [("gen_limit", .nat s.waveLimit), ("entry_template", .text s.entryTemplate),
     ("callback_errors", .atom s.onFailure.name)]
    false

end Settings

end ReactiveKernel
