import ReactiveKernel.Program

/-!
# Activities

An operation that may need host code is written as an activity. It has ended, or it leaves
control to host code or to a further call and says how it goes on from the kernel that it gets
back. Whoever follows an activity decides how host code and calls are run.
-/

namespace ReactiveKernel

/-- An operation at a point where it has ended or leaves control to others. -/
inductive Activity (κ : Type) (α : Type) where
  /-- It has ended. -/
  | done (a : α) (k : Kernel κ)
  /-- Host code is due on an occasion. -/
  | react (code : κ) (occasion : Occasion) (k : Kernel κ)
      (next : Except Fault Unit → Kernel κ → Activity κ α)
  /-- Host code is in control. -/
  | host (p : Program κ (Except Fault Unit)) (k : Kernel κ)
      (next : Except Fault Unit → Kernel κ → Activity κ α)
  /-- A call is to be made. -/
  | call (c : Call) (k : Kernel κ) (next : Except Fault c.Reply → Kernel κ → Activity κ α)

namespace Activity

variable {κ α β : Type}

/-- The kernel at the point that has been reached. -/
def kernel : Activity κ α → Kernel κ
  | .done _ k => k
  | .react _ _ k _ => k
  | .host _ k _ => k
  | .call _ k _ => k

/-- One activity after another. -/
def bind : Activity κ α → (α → Kernel κ → Activity κ β) → Activity κ β
  | .done a k, f => f a k
  | .react code occasion k next, f => .react code occasion k fun r k => (next r k).bind f
  | .host p k next, f => .host p k fun r k => (next r k).bind f
  | .call c k next, f => .call c k fun r k => (next r k).bind f

/-- Go on after a success and pass a fault through. -/
def andThen (a : Activity κ (Except Fault α))
    (next : α → Kernel κ → Activity κ (Except Fault β)) : Activity κ (Except Fault β) :=
  a.bind fun
    | .ok x, k => next x k
    | .error fault, k => .done (.error fault) k

/-- Run host code if there is any. -/
def reactTo (code : Option κ) (occasion : Occasion) (k : Kernel κ) :
    Activity κ (Except Fault Unit) :=
  match code with
  | none => .done (.ok ()) k
  | some code => .react code occasion k .done

end Activity

end ReactiveKernel
