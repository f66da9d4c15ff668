import ReactiveKernel.Execution.Activity

/-!
# Engines

An engine runs host code and calls. A run ends with an outcome and a new kernel, or with
nothing when the nesting of calls went deeper than allowed.
-/

namespace ReactiveKernel

variable {κ α : Type}

/-- The result of running host code: an outcome with the kernel after it, or nothing when the
nesting of calls went too deep. -/
abbrev Run (κ : Type) (α : Type) := Option (Except Fault α × Kernel κ)

/-- The means to run host code and calls. -/
structure Engine (κ : Type) where
  /-- The order in which sets of subscriptions are walked. -/
  order : EdgeOrder κ
  /-- Run a piece of host code. -/
  react : κ → Occasion → Kernel κ → Run κ Unit
  /-- Make a call. -/
  call : (c : Call) → Kernel κ → Run κ c.Reply

/-- Follow an activity to its end. -/
def Activity.run (e : Engine κ) : Activity κ α → Option (α × Kernel κ)
  | .done a k => some (a, k)
  | .react code occasion k next =>
    match e.react code occasion k with
    | none => none
    | some (outcome, k) => (next outcome k).run e
  | .host p k next =>
    match p.exec e.order e.call k with
    | none => none
    | some (outcome, k) => (next outcome k).run e
  | .call c k next =>
    match e.call c k with
    | none => none
    | some (reply, k) => (next reply k).run e

end ReactiveKernel
