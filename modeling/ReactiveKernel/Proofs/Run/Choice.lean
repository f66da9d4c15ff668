import ReactiveKernel.Proofs.Run.Step

/-!
# Choices of a run

What is left open by a run are choices: which program runs when host code is due, and in which order
sets of subscriptions are walked. A run that follows given choices is determined. Host code with a
memory of its own is covered, since each piece of host code that is started has a choice of its own.
-/

namespace ReactiveKernel

variable {κ α β : Type}

/-- What is chosen at a step of a run. -/
inductive Choice (κ : Type) where
  /-- Host code that is due runs this program. -/
  | start (p : Program κ (Except Fault Unit))
  /-- Sets of subscriptions are walked in this order. -/
  | walk (order : EdgeOrder κ)
  /-- There is nothing to choose. -/
  | proceed

namespace Activity

/-- One step of a run, by a choice. -/
inductive Takes : Choice κ → Activity κ α → Activity κ α → Prop
  /-- Host code that is due starts. -/
  | start (code : κ) (occasion : Occasion) (k : Kernel κ)
      (next : Except Fault Unit → Kernel κ → Activity κ α) (p : Program κ (Except Fault Unit)) :
      Takes (.start p) (.react code occasion k next) (.host p k next)
  /-- Host code ends and the operation that ran it goes on. -/
  | finish (r : Except Fault Unit) (k : Kernel κ)
      (next : Except Fault Unit → Kernel κ → Activity κ α) :
      Takes .proceed (.host (.pure r) k next) (next r k)
  /-- Host code looks at the state. -/
  | inspect (f : State κ → Program κ (Except Fault Unit)) (k : Kernel κ)
      (next : Except Fault Unit → Kernel κ → Activity κ α) :
      Takes .proceed (.host (.inspect f) k next) (.host (f k.toState) k next)
  /-- Host code uses the instruments. -/
  | probe (p : Probe) (f : p.Reply → Program κ (Except Fault Unit)) (k : Kernel κ)
      (next : Except Fault Unit → Kernel κ → Activity κ α) :
      Takes .proceed (.host (.probe p f) k next) (.host (f (p.perform k).1) (p.perform k).2 next)
  /-- Host code gives a command. -/
  | command (order : EdgeOrder κ) (c : Command κ)
      (f : Except Fault c.Reply → Program κ (Except Fault Unit)) (k : Kernel κ)
      (next : Except Fault Unit → Kernel κ → Activity κ α) :
      Takes (.walk order) (.host (.command c f) k next)
        (.host (f (c.perform order k).1) (c.perform order k).2 next)
  /-- Host code makes a call. -/
  | request (order : EdgeOrder κ) (c : Call)
      (f : Except Fault c.Reply → Program κ (Except Fault Unit)) (k : Kernel κ)
      (next : Except Fault Unit → Kernel κ → Activity κ α) :
      Takes (.walk order) (.host (.call c f) k next)
        ((c.activity order k).bind fun reply k => .host (f reply) k next)
  /-- An operation makes a call. -/
  | call (order : EdgeOrder κ) (c : Call) (k : Kernel κ)
      (next : Except Fault c.Reply → Kernel κ → Activity κ α) :
      Takes (.walk order) (.call c k next) ((c.activity order k).bind next)

/-- The steps of a run that follows choices. -/
inductive Follows : List (Choice κ) → Activity κ α → Activity κ α → Prop
  /-- No step. -/
  | refl (a : Activity κ α) : Follows [] a a
  /-- A step, and then further ones. -/
  | step {c : Choice κ} {cs : List (Choice κ)} {a b d : Activity κ α} : Takes c a b →
    Follows cs b d → Follows (c :: cs) a d

variable {c : Choice κ} {cs ds : List (Choice κ)} {a b b' d : Activity κ α} {x : α} {z : β}
  {k k' : Kernel κ} {f : α → Kernel κ → Activity κ β}

/-- What is chosen at a step makes it a step. -/
theorem Takes.step (h : Takes c a b) : Step a b := by
  cases h with
  | start code occasion k next p => exact .start code occasion k next p
  | finish r k next => exact .finish r k next
  | inspect f k next => exact .inspect f k next
  | probe p f k next => exact .probe p f k next
  | command order c f k next => exact .command order c f k next
  | request order c f k next => exact .request order c f k next
  | call order c k next => exact .call order c k next

/-- Something is chosen at every step. -/
theorem Step.takes (h : Step a b) : ∃ c, Takes c a b := by
  cases h with
  | start code occasion k next p => exact ⟨_, .start code occasion k next p⟩
  | finish r k next => exact ⟨_, .finish r k next⟩
  | inspect f k next => exact ⟨_, .inspect f k next⟩
  | probe p f k next => exact ⟨_, .probe p f k next⟩
  | command order c f k next => exact ⟨_, .command order c f k next⟩
  | request order c f k next => exact ⟨_, .request order c f k next⟩
  | call order c k next => exact ⟨_, .call order c k next⟩

/-- A choice determines a step. -/
theorem Takes.deterministic (h : Takes c a b) (h' : Takes c a b') : b = b' := by
  cases h <;> cases h' <;> rfl

/-- Steps that follow choices are steps. -/
theorem Follows.steps (h : Follows cs a b) : Steps a b := by
  induction h with
  | refl => exact .refl
  | step first _ ih => exact .head first.step ih

/-- Every run follows some choices. -/
theorem Steps.follows (h : Steps a b) : ∃ cs, Follows cs a b := by
  induction h using Relation.ReflTransGen.head_induction_on with
  | refl => exact ⟨[], .refl b⟩
  | head first _ ih =>
    obtain ⟨c, taken⟩ := first.takes
    obtain ⟨cs, follows⟩ := ih
    exact ⟨c :: cs, .step taken follows⟩

/-- Choices determine a run. -/
theorem Follows.deterministic (h : Follows cs a b) (h' : Follows cs a b') : b = b' := by
  induction h with
  | refl =>
    cases h'
    rfl
  | step first _ ih =>
    cases h' with
    | step first' rest' =>
      obtain rfl := first.deterministic first'
      exact ih rest'

theorem Follows.trans (h : Follows cs a b) (h' : Follows ds b d) : Follows (cs ++ ds) a d := by
  induction h with
  | refl => exact h'
  | step first _ ih => exact .step first (ih h')

/-- What waits for an activity does not matter for its steps. -/
theorem Takes.bind (h : Takes c a b) (f : α → Kernel κ → Activity κ β) :
    Takes c (a.bind f) (b.bind f) := by
  cases h with
  | start code occasion k next p => exact .start ..
  | finish r k next => exact .finish r k fun r k => (next r k).bind f
  | inspect g k next => exact .inspect ..
  | probe p g k next => exact .probe ..
  | command order c g k next => exact .command ..
  | request order c g k next =>
    rw [bind_assoc]
    exact .request order c g k fun r k => (next r k).bind f
  | call order c k next =>
    rw [bind_assoc]
    exact .call order c k fun r k => (next r k).bind f

/-- What a part of an activity does by some choices, the whole does by them. -/
theorem Follows.bind (h : Follows cs a b) (f : α → Kernel κ → Activity κ β) :
    Follows cs (a.bind f) (b.bind f) := by
  induction h with
  | refl => exact .refl _
  | step first _ ih => exact .step (first.bind f) ih

/-- What has ended takes no step. -/
theorem Follows.of_done (h : Follows cs (.done x k) b) : cs = [] ∧ b = .done x k := by
  cases h with
  | refl => exact ⟨rfl, rfl⟩
  | step first _ => cases first

/-- While the first of two activities has not ended, it is what takes steps. -/
theorem Takes.of_bind {b : Activity κ β} (h : Takes c (a.bind f) b) :
    (∃ y m, a = .done y m) ∨ ∃ a', Takes c a a' ∧ b = a'.bind f := by
  cases a with
  | done y m => exact .inl ⟨y, m, rfl⟩
  | react code occasion k next =>
    cases h with
    | start _ _ _ _ p => exact .inr ⟨_, .start code occasion k next p, rfl⟩
  | host p k next =>
    cases h with
    | finish r => exact .inr ⟨_, .finish r k next, rfl⟩
    | inspect g => exact .inr ⟨_, .inspect g k next, rfl⟩
    | probe q g => exact .inr ⟨_, .probe q g k next, rfl⟩
    | command order c g => exact .inr ⟨_, .command order c g k next, rfl⟩
    | request order c g =>
      have regrouped := bind_assoc (c.activity order k) (fun reply k => .host (g reply) k next) f
      exact .inr ⟨_, .request order c g k next, regrouped.symm⟩
  | call c k next =>
    cases h with
    | call order => exact .inr ⟨_, .call order c k next, (bind_assoc _ _ _).symm⟩

/-- An activity that has not ended. -/
def Ongoing : Activity κ α → Prop
  | .done .. => False
  | _ => True

/-- A run of one activity after another is still in the first one, or it has come to the second one
at the end of the first one. -/
theorem Follows.of_bind_cases {b : Activity κ β} (h : Follows cs (a.bind f) b) :
    (∃ a', Follows cs a a' ∧ b = a'.bind f ∧ a'.Ongoing) ∨ ∃ before after y m,
      cs = before ++ after ∧ Follows before a (.done y m) ∧ Follows after (f y m) b := by
  induction cs generalizing a with
  | nil =>
    cases h
    cases a with
    | done y m => exact .inr ⟨[], [], y, m, rfl, .refl _, .refl _⟩
    | react code occasion k next | host p k next | call c k next =>
      exact .inl ⟨_, .refl _, rfl, trivial⟩
  | cons c cs ih =>
    cases h with
    | step first rest =>
      rcases first.of_bind with ⟨y, m, rfl⟩ | ⟨a', first', rfl⟩
      · exact .inr ⟨[], c :: cs, y, m, rfl, .refl _, .step first rest⟩
      · rcases ih rest with ⟨d, later, same, ongoing⟩ | ⟨before, after, y, m, rfl, ends, rest'⟩
        · exact .inl ⟨d, .step first' later, same, ongoing⟩
        · exact .inr ⟨c :: before, after, y, m, rfl, .step first' ends, rest'⟩

/-- What comes to an end after an activity does so after the end of that activity. -/
theorem Follows.of_bind (h : Follows cs (a.bind f) (.done z k)) : ∃ before after y m,
    cs = before ++ after ∧ Follows before a (.done y m) ∧ Follows after (f y m) (.done z k) := by
  rcases h.of_bind_cases with ⟨a', _, same, ongoing⟩ | ended
  · cases a' with
    | done y m => exact ongoing.elim
    | react code occasion k next | host p k next | call c k next => cases same
  · exact ended

end Activity

end ReactiveKernel
