import ReactiveKernel.Execution.Drain
import ReactiveKernel.Execution.Engine
import ReactiveKernel.Execution.Inbox
import ReactiveKernel.Execution.Instantiation

/-!
# Running programs for a host

The engine of a host at some depth makes calls with the engine one level below it. At depth
zero no call returns, so a program whose calls nest more deeply than the given depth has no
result; for all others the depth does not matter.
-/

namespace ReactiveKernel

variable {κ : Type}

/-- What a call does. -/
def Call.activity (order : EdgeOrder κ) (k : Kernel κ) :
    (c : Call) → Activity κ (Except Fault c.Reply)
  | .instantiate template parent params => k.instantiate order template parent params
  | .callSite parent index => k.callSite order parent index
  | .run template => k.run order template
  | .drain => k.drain
  | .drainEvents => k.drainEvents order

namespace Host

/-- The engine of a host at some depth. -/
def engine (h : Host κ) : Nat → Engine κ
  | 0 => ⟨h.order, fun _ _ _ => none, fun _ _ => none⟩
  | depth + 1 =>
    { order := h.order
      react := fun code occasion k =>
        (h.behave code occasion).exec h.order (fun c k => (h.engine depth).call c k) k
      call := fun c k => (c.activity h.order k).run (h.engine depth) }

/-- Run a program. -/
def execute {α : Type} (h : Host κ) (depth : Nat) (p : Program κ α) (k : Kernel κ) :
    Option (α × Kernel κ) :=
  p.exec h.order (fun c k => (h.engine depth).call c k) k

end Host

end ReactiveKernel
