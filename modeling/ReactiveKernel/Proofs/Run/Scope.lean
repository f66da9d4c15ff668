import ReactiveKernel.Proofs.Run.Action
import ReactiveKernel.Proofs.Run.Unwinding

/-!
# Runs within a scope

Some facts hold only of runs in which host code keeps to certain requests. A scope says which
requests these are, in view of the kernel at that moment. A discipline says what holds whenever
control passes in such runs, which calls are made, and how they are answered. If the requests of the
scope and the calls keep a discipline, then so does every run within the scope.
-/

namespace ReactiveKernel

variable {κ α β : Type}

/-- What host code may ask for. -/
structure Scope (κ : Type) where
  /-- The commands that it may give. -/
  command : Command κ → Kernel κ → Prop
  /-- What it may do with the instruments. -/
  probe : Probe → Kernel κ → Prop
  /-- The calls that it may make. -/
  call : Call → Kernel κ → Prop

/-- What runs within a scope can rely on. -/
structure Discipline (κ : Type) where
  /-- What is true whenever control passes to host code or to a call, and back. -/
  holds : Kernel κ → Prop
  /-- The calls that are made. -/
  asks : Call → Kernel κ → Prop
  /-- How a call that was made at one kernel is answered at another one. -/
  answers : (c : Call) → Kernel κ → Except Fault c.Reply → Kernel κ → Prop

namespace Activity

/-- What host code in control asks for next is within a scope. -/
def Heeds (S : Scope κ) : Activity κ α → Prop
  | .host (.command c _) k _ => S.command c k
  | .host (.probe p _) k _ => S.probe p k
  | .host (.call c _) k _ => S.call c k
  | _ => True

/-- Any number of steps of a run in which host code asks for nothing beyond a scope. -/
abbrev StepsWithin (S : Scope κ) : Activity κ α → Activity κ α → Prop :=
  Relation.ReflTransGen fun a b => a.Heeds S ∧ Step a b

/-- Steps within a scope are steps. -/
theorem StepsWithin.steps {S : Scope κ} {a b : Activity κ α} (h : StepsWithin S a b) :
    Steps a b :=
  Relation.ReflTransGen.mono (fun _ _ step => step.2) a b h

variable {S : Scope κ} {a b : Activity κ α}

/-- What waits for an activity does not matter for what host code in control asks. -/
theorem Heeds.of_bind {f : α → Kernel κ → Activity κ β} (h : (a.bind f).Heeds S) : a.Heeds S := by
  cases a with
  | done x k => trivial
  | react code occasion k next => trivial
  | host p k next => cases p <;> exact h
  | call c k next => trivial

/-- What comes to an end after an activity does so after the end of that activity. -/
theorem StepsWithin.of_bind {f : α → Kernel κ → Activity κ β} {z : β} {k : Kernel κ}
    (h : StepsWithin S (a.bind f) (.done z k)) :
    ∃ y m, StepsWithin S a (.done y m) ∧ StepsWithin S (f y m) (.done z k) := by
  generalize begin : a.bind f = b at h
  induction h using Relation.ReflTransGen.head_induction_on generalizing a with
  | refl =>
    cases a with
    | done y m => exact ⟨y, m, .refl, begin ▸ .refl⟩
    | react code occasion k next | host p k next | call c k next => cases begin
  | head first rest ih =>
    subst begin
    rcases first.2.of_bind with ⟨y, m, rfl⟩ | ⟨a', step, rfl⟩
    · exact ⟨y, m, .refl, .head first rest⟩
    · obtain ⟨y, m, ends, rest'⟩ := ih rfl
      exact ⟨y, m, .head ⟨first.1.of_bind, step⟩ ends, rest'⟩

/-- An activity that makes a call goes on where the call has ended. -/
theorem StepsWithin.of_call {c : Call} {x : α} {k k' : Kernel κ}
    {next : Except Fault c.Reply → Kernel κ → Activity κ α}
    (h : StepsWithin S (.call c k next) (.done x k')) : ∃ order r m,
      StepsWithin S (c.activity order k) (.done r m) ∧ StepsWithin S (next r m) (.done x k') := by
  cases h.cases_head with
  | inl same => cases same
  | inr first =>
    obtain ⟨b, ⟨_, step⟩, rest⟩ := first
    cases step with
    | call order =>
      obtain ⟨r, m, ends, rest'⟩ := StepsWithin.of_bind rest
      exact ⟨order, r, m, ends, rest'⟩

/-- A scope that any command is within does not stop host code from giving commands. -/
theorem stepsWithin_commands {S : Scope κ} (free : ∀ c k, S.command c k) (order : EdgeOrder κ)
    (cs : List (Command κ)) (k : Kernel κ) (next : Except Fault Unit → Kernel κ → Activity κ α) :
    StepsWithin S (.host (.commands cs) k next)
      (.host (.commands []) (k.performAll order cs) next) := by
  induction cs generalizing k with
  | nil => exact .refl
  | cons c cs ih =>
    refine .head ⟨free c k, .command order c (fun _ => Program.commands cs) k next⟩ ?_
    exact ih (c.perform order k).2

/-- An activity obeys a discipline and ends with an answer that fits, whatever host code and calls
do that obey it. -/
def Obeys (D : Discipline κ) (fits : α → Kernel κ → Prop) : Activity κ α → Prop
  | .done a k => fits a k
  | .react _ _ k next => D.holds k ∧ ∀ r k', D.holds k' → (next r k').Obeys D fits
  | .host _ k next => D.holds k ∧ ∀ r k', D.holds k' → (next r k').Obeys D fits
  | .call c k next => D.holds k ∧ D.asks c k ∧
    ∀ r k', D.holds k' → D.answers c k r k' → (next r k').Obeys D fits

variable {D : Discipline κ} {fits : α → Kernel κ → Prop}

/-- The second of two activities obeys the discipline where the first one ends. -/
theorem Obeys.bind {f : α → Kernel κ → Activity κ β} {fits : β → Kernel κ → Prop}
    (h : a.Obeys D fun x k => (f x k).Obeys D fits) : (a.bind f).Obeys D fits := by
  induction a with
  | done x k => exact h
  | react code occasion k next ih | host p k next ih =>
    exact ⟨h.1, fun r k' holds => ih r k' (h.2 r k' holds)⟩
  | call c k next ih =>
    exact ⟨h.1, h.2.1, fun r k' holds answer => ih r k' (h.2.2 r k' holds answer)⟩

/-- The answer fits whatever follows from what it fits. -/
theorem Obeys.mono {fits' : α → Kernel κ → Prop} (imp : ∀ x k, fits x k → fits' x k)
    (h : a.Obeys D fits) : a.Obeys D fits' := by
  induction a with
  | done x k => exact imp x k h
  | react code occasion k next ih | host p k next ih =>
    exact ⟨h.1, fun r k' holds => ih r k' (h.2 r k' holds)⟩
  | call c k next ih =>
    exact ⟨h.1, h.2.1, fun r k' holds answer => ih r k' (h.2.2 r k' holds answer)⟩

/-- An activity that ends where the discipline holds is at a kernel where it holds. -/
theorem Obeys.holds_kernel (h : a.Obeys D fun _ k => D.holds k) : D.holds a.kernel := by
  cases a with
  | done x k => exact h
  | react code occasion k next | host p k next | call c k next => exact h.1

end Activity

/-- Requests within a scope keep the discipline, and so do the calls that are made. -/
structure Discipline.Kept (D : Discipline κ) (S : Scope κ) : Prop where
  /-- Every command of the scope, done or refused. -/
  command : ∀ (order : EdgeOrder κ) (c : Command κ) k, D.holds k → S.command c k →
    D.holds (c.perform order k).2
  /-- Every use of the instruments that is within the scope. -/
  probe : ∀ (p : Probe) k, D.holds k → S.probe p k → D.holds (p.perform k).2
  /-- The calls of the scope are among those that are made. -/
  request : ∀ (c : Call) k, D.holds k → S.call c k → D.asks c k
  /-- Every call that is made, if the host code and the calls within it do. -/
  call : ∀ (order : EdgeOrder κ) (c : Call) k, D.holds k → D.asks c k →
    (c.activity order k).Obeys D fun r k' => D.holds k' ∧ D.answers c k r k'

namespace Discipline.Kept

variable {D : Discipline κ} {S : Scope κ} {fits : α → Kernel κ → Prop} {a b : Activity κ α}

/-- What is left to do after a step within the scope obeys the discipline. -/
theorem step (kept : D.Kept S) (obeys : a.Obeys D fits) (heeds : a.Heeds S)
    (step : Activity.Step a b) : b.Obeys D fits := by
  cases step with
  | start code occasion k next p => exact obeys
  | finish r k next => exact obeys.2 r k obeys.1
  | inspect f k next => exact obeys
  | probe p f k next => exact ⟨kept.probe p k obeys.1 heeds, obeys.2⟩
  | command order c f k next => exact ⟨kept.command order c k obeys.1 heeds, obeys.2⟩
  | request order c f k next =>
    have called := kept.call order c k obeys.1 (kept.request c k obeys.1 heeds)
    exact .bind (called.mono fun r k' done => ⟨done.1, obeys.2⟩)
  | call order c k next =>
    have called := kept.call order c k obeys.1 obeys.2.1
    exact .bind (called.mono fun r k' done => obeys.2.2 r k' done.1 done.2)

/-- What obeys a discipline obeys it in all steps within the scope. -/
theorem steps (kept : D.Kept S) (obeys : a.Obeys D fits) (steps : Activity.StepsWithin S a b) :
    b.Obeys D fits := by
  induction steps with
  | refl => exact obeys
  | tail _ next ih => exact kept.step ih next.1 next.2

end Discipline.Kept

/-- The discipline of a contract: any call may be made and may be answered in any way. -/
def Contract.discipline (C : Contract κ) : Discipline κ :=
  ⟨C.holds, fun _ _ => True, fun _ _ _ _ => True⟩

variable {C : Contract κ}

/-- A contract that says nothing of changes is kept as a discipline. -/
theorem Activity.Keeps.obeys {fits : α → Kernel κ → Prop} {a : Activity κ α} {k₀ : Kernel κ}
    (free : ∀ k k', C.holds k' → C.Passes k k') (h : a.Keeps C fits k₀) :
    a.Obeys C.discipline fits := by
  induction a generalizing k₀ with
  | done x k => exact h.2
  | react code occasion k next ih | host p k next ih =>
    exact ⟨h.2.1, fun r k' holds => ih r k' (h.2.2 r k' (free k k' holds))⟩
  | call c k next ih =>
    exact ⟨h.2.1, trivial, fun r k' holds _ => ih r k' (h.2.2 r k' (free k k' holds))⟩

/-- A contract that operations and drains keep is kept by runs in which host code gives commands and
uses the instruments only in ways that keep it. -/
theorem Contract.Receptive.kept (receptive : C.Receptive)
    (drain : ∀ k : Kernel κ, C.holds k → k.drain.Safe C k)
    (free : ∀ k k', C.holds k' → C.Passes k k') {S : Scope κ}
    (command : ∀ (order : EdgeOrder κ) (c : Command κ) k, C.holds k → S.command c k →
      C.holds (c.perform order k).2)
    (probe : ∀ (p : Probe) k, C.holds k → S.probe p k → C.holds (p.perform k).2) :
    C.discipline.Kept S where
  command := command
  probe := probe
  request _ _ _ _ := trivial
  call order c _ holds _ :=
    ((receptive.call drain order c holds).obeys free).mono fun _ _ done => ⟨done.holds, trivial⟩

/-- A contract that all actions keep is kept by runs in which the instruments are used only in ways
that keep it. -/
theorem Contract.DrainStable.kept (stable : C.DrainStable)
    (free : ∀ k k', C.holds k' → C.Passes k k') {S : Scope κ}
    (probe : ∀ (p : Probe) k, C.holds k → S.probe p k → C.holds (p.perform k).2) :
    C.discipline.Kept S :=
  stable.receptive.kept (fun _ holds => stable.drain holds) free
    (fun order c _ holds _ => (stable.act order (.command c) holds).holds) probe

end ReactiveKernel
