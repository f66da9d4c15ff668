import ReactiveKernel.Proofs.State.Resettling

/-!
# Commands and the limit of waves

The limit of waves is a setting that no command looks at. A command that is given to a kernel with
another limit gets the same answer, and the kernel that it leaves behind is the same but for the
limit, if the order of walking does not depend on the limit either.
-/

namespace ReactiveKernel

variable {κ : Type}

/-- The state with another limit of waves. -/
def State.withLimit (s : State κ) (limit : Nat) : State κ :=
  { s with settings := { s.settings with waveLimit := limit } }

/-- The order of walking is the same whatever the limit of waves is. -/
def EdgeOrder.IgnoresLimit (order : EdgeOrder κ) : Prop :=
  ∀ s limit site ids, order.arrange (s.withLimit limit) site ids = order.arrange s site ids

/-- Walking in ascending order ignores the limit. -/
theorem EdgeOrder.ascending_ignoresLimit : (ascending : EdgeOrder κ).IgnoresLimit :=
  fun _ _ _ _ => rfl

namespace Kernel

/-- The kernel with another limit of waves. -/
def withLimit (k : Kernel κ) (limit : Nat) : Kernel κ := k.mapState (·.withLimit limit)

variable {limit : Nat} {k : Kernel κ}

/-- Parameters are given to a closure in the same way under another limit. -/
theorem setParams_withLimit (id : ClosureId) (params : List (String × Value)) :
    (k.withLimit limit).setParams id params = (k.setParams id params).withLimit limit :=
  setParams_resettle (f := fun s => { s with waveLimit := limit }) id params

end Kernel

open Kernel

variable {limit : Nat} {order : EdgeOrder κ} {k : Kernel κ}

/-- A command gets the same answer whatever the limit of waves is, and leaves the limit as it is. -/
theorem Command.perform_withLimit (blind : order.IgnoresLimit) (c : Command κ) :
    c.perform order (k.withLimit limit) =
      ((c.perform order k).1, (c.perform order k).2.withLimit limit) :=
  perform_resettle (f := fun s => { s with waveLimit := limit }) (fun s => blind s limit) c

/-- The instruments show the same whatever the limit of waves is. -/
theorem Probe.perform_withLimit (p : Probe) :
    p.perform (k.withLimit limit) = ((p.perform k).1, (p.perform k).2.withLimit limit) :=
  p.perform_resettle (f := fun s => { s with waveLimit := limit })

end ReactiveKernel
