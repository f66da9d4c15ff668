import ReactiveKernel.Kernel.State

/-!
# Summaries of a kernel

The sizes of a kernel's tables, and its description in constructor notation.
-/

namespace ReactiveKernel

variable {κ : Type}

/-- The sizes of a kernel's tables. -/
structure Census where
  /-- Live datums. -/
  datums : Nat
  /-- Live closures. -/
  closures : Nat
  /-- Live subscriptions. -/
  subscriptions : Nat
  /-- Pending notifications. -/
  pending : Nat
  /-- Generation of the last wave. -/
  generation : Nat
  deriving DecidableEq

/-- The sizes of the tables of a state. -/
def State.census (s : State κ) : Census :=
  { datums := s.datums.size
    closures := s.closures.size
    subscriptions := s.edges.subscriptions.size
    pending := s.schedule.pending.size
    generation := s.generation }

/-- A state with its tracer in constructor notation. Contents are shown by their number. -/
def State.term (s : State κ) (tracer : Tracer) : Text.Term :=
  .record "Runtime"
    [("config", s.settings.term), ("datums", .nat s.datums.size),
     ("closures", .nat s.closures.size), ("subscriptions", .nat s.edges.subscriptions.size),
     ("functions", .nat s.edges.functions.size), ("scheduler", s.schedule.term),
     ("metadata", s.templates.term), ("tracer", tracer.term)]
    true

end ReactiveKernel
