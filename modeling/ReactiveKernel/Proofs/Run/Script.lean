import ReactiveKernel.Proofs.Run.Step

/-!
# Scripted runs

A script says which program host code runs if some is due at a step of a run, and in which order
sets of subscriptions are walked at that step. It determines the run. Host code with a memory of its
own is covered, since no step of a run comes twice.
-/

namespace ReactiveKernel

variable {κ α : Type}

/-- What is left open at the steps of a run. -/
structure Script (κ : Type) where
  /-- The program that a piece of host code runs on an occasion, if it is due at a step. -/
  behave : Nat → κ → Occasion → Program κ (Except Fault Unit)
  /-- The order in which sets of subscriptions are walked at a step. -/
  order : Nat → EdgeOrder κ

namespace Activity

/-- The next point of a run. What has ended stays as it is. -/
def advance (behave : κ → Occasion → Program κ (Except Fault Unit)) (order : EdgeOrder κ) :
    Activity κ α → Activity κ α
  | .done x k => .done x k
  | .react code occasion k next => .host (behave code occasion) k next
  | .host (.pure r) k next => next r k
  | .host (.inspect f) k next => .host (f k.toState) k next
  | .host (.probe p f) k next => .host (f (p.perform k).1) (p.perform k).2 next
  | .host (.command c f) k next => .host (f (c.perform order k).1) (c.perform order k).2 next
  | .host (.call c f) k next => (c.activity order k).bind fun reply k => .host (f reply) k next
  | .call c k next => (c.activity order k).bind next

/-- The point of a run after so many steps by a script. -/
def after (s : Script κ) (a : Activity κ α) : Nat → Activity κ α
  | 0 => a
  | n + 1 => (a.after s n).advance (s.behave n) (s.order n)

/-- The result, once there is one. -/
def result? : Activity κ α → Option α
  | .done x _ => some x
  | _ => none

variable {behave : κ → Occasion → Program κ (Except Fault Unit)} {order : EdgeOrder κ}

/-- The next point of a run is some steps further, if it is another one. -/
theorem steps_advance (a : Activity κ α) : Steps a (a.advance behave order) := by
  cases a with
  | done x k => exact .refl
  | react code occasion k next => exact .single (.start code occasion k next _)
  | call c k next => exact .single (.call order c k next)
  | host p k next =>
    cases p with
    | pure r => exact .single (.finish r k next)
    | inspect f => exact .single (.inspect f k next)
    | probe p f => exact .single (.probe p f k next)
    | command c f => exact .single (.command order c f k next)
    | call c f => exact .single (.request order c f k next)

/-- What a script leads to is reached by steps. -/
theorem steps_after (s : Script κ) (a : Activity κ α) (n : Nat) : Steps a (a.after s n) := by
  induction n with
  | zero => exact .refl
  | succ n ih => exact ih.trans (steps_advance _)

end Activity

end ReactiveKernel
