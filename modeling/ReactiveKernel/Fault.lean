import ReactiveKernel.Node.Basic

/-!
# Faults

What can go wrong in a request to the kernel. A notification whose subscription is gone is not
a fault, and neither is a datum that is loading or failed.
-/

namespace ReactiveKernel

/-- The cause of a refused or failed request. -/
inductive Fault where
  | unknownDatum (id : DatumId)
  | unknownClosure (id : ClosureId)
  | unknownTemplate (name : String)
  | unknownCallSite (template : String) (index : Nat)
  | shapeMismatch (datum : DatumId) (expected actual : Shape)
  | itemIndexOutOfRange (datum : DatumId) (index length : Nat)
  /-- A raw number that is not of the expected family. -/
  | identityViolation (raw : Nat) (expected : NodeFamily)
  /-- The limit of waves was reached with notifications still pending. -/
  | cycleOverrun (limit discarded : Nat)
  | noEntryTemplate (entry : String)
  | ambiguousEntryTemplate (entry : String) (candidates : List String)
  /-- A drain was requested while one is running. -/
  | reentrant
  deriving DecidableEq

namespace Fault

/-- The text of a fault. -/
def message : Fault → String
  | .unknownDatum id => id.display ++ " does not exist"
  | .unknownClosure id => id.display ++ " does not exist"
  | .unknownTemplate name => "template not found: " ++ name
  | .unknownCallSite template index => s!"template {template} has no call site {index}"
  | .shapeMismatch datum expected actual =>
    datum.display ++ " is a " ++ actual.display ++ ", expected a " ++ expected.display
  | .itemIndexOutOfRange datum index length =>
    s!"item index {index} out of range for " ++ datum.display ++ s!" (len {length})"
  | .identityViolation raw expected => s!"raw id {raw} is not a {expected.name} identity"
  | .cycleOverrun limit discarded =>
    s!"notification cycle: {limit} generations without draining ({discarded} pending discarded)"
  | .noEntryTemplate entry => "no template matches entry name `" ++ entry ++ "`"
  | .ambiguousEntryTemplate entry candidates =>
    "entry name `" ++ entry ++ "` is ambiguous: " ++
      (Text.Term.list (candidates.map .text)).render
  | .reentrant => "drain requested while a drain is already running"

/-- Whether the fault is an overrun of the limit of waves. -/
def isCycleOverrun : Fault → Bool
  | .cycleOverrun .. => true
  | _ => false

end Fault

/-- The datum with some raw number. -/
def DatumId.ofRaw (raw : Nat) : Except Fault DatumId :=
  match DatumId.ofRaw? raw with
  | some id => .ok id
  | none => .error (.identityViolation raw .datum)

/-- The closure with some raw number. -/
def ClosureId.ofRaw (raw : Nat) : Except Fault ClosureId :=
  match ClosureId.ofRaw? raw with
  | some id => .ok id
  | none => .error (.identityViolation raw .closure)

/-- The fault of a missing node. -/
def Fault.unknownNode : NodeId → Fault
  | .datum id => .unknownDatum id
  | .closure id => .unknownClosure id

end ReactiveKernel
