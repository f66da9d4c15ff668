import ReactiveKernel.Proofs.Run.Step

/-!
# Contracts of runs

A contract says what holds whenever control passes between the kernel and host code, how a kernel
may have changed by any later moment, and how when control comes back from host code or from a
call. An activity keeps a contract when it does its own part, whatever host code and calls do that
keep theirs. If commands, probes and calls keep a contract, then so does every run.
-/

namespace ReactiveKernel

variable {κ α β : Type}

/-- What host code and calls can rely on. -/
structure Contract (κ : Type) where
  /-- What is true whenever control passes to host code or to a call, and back. -/
  holds : Kernel κ → Prop
  /-- How a kernel may have changed by a later moment. -/
  leads : Kernel κ → Kernel κ → Prop
  /-- How a kernel may have changed when control comes back. -/
  returns : Kernel κ → Kernel κ → Prop

namespace Contract

/-- Control that was given away at one kernel comes back at another one. -/
structure Passes (C : Contract κ) (k k' : Kernel κ) : Prop where
  /-- What holds at every passing of control holds. -/
  holds : C.holds k'
  /-- The second kernel is a later one. -/
  leads : C.leads k k'
  /-- What was to be left alone was left alone. -/
  returns : C.returns k k'

/-- Changes add up. -/
structure Ordered (C : Contract κ) : Prop where
  /-- Nothing has changed yet. -/
  refl : ∀ k, C.leads k k
  /-- A later moment of a later moment is a later moment. -/
  trans : ∀ {k₁ k₂ k₃}, C.leads k₁ k₂ → C.leads k₂ k₃ → C.leads k₁ k₃
  /-- Control can come back at once. -/
  returns_refl : ∀ k, C.returns k k
  /-- Control can be given away again. -/
  returns_trans : ∀ {k₁ k₂ k₃}, C.returns k₁ k₂ → C.returns k₂ k₃ → C.returns k₁ k₃

variable {C : Contract κ} {k k' k'' : Kernel κ}

/-- Control may come back at once. -/
theorem Ordered.passes_refl (ordered : C.Ordered) (holds : C.holds k) : C.Passes k k :=
  ⟨holds, ordered.refl k, ordered.returns_refl k⟩

/-- Control may be given away again. -/
theorem Ordered.passes_trans (ordered : C.Ordered) (h : C.Passes k k') (h' : C.Passes k' k'') :
    C.Passes k k'' :=
  ⟨h'.holds, ordered.trans h.leads h'.leads, ordered.returns_trans h.returns h'.returns⟩

end Contract

namespace Activity

/-- Begun at a kernel, an activity keeps a contract and ends with an answer that fits. -/
def Keeps (C : Contract κ) (fits : α → Kernel κ → Prop) : Kernel κ → Activity κ α → Prop
  | k₀, .done a k => C.leads k₀ k ∧ fits a k
  | k₀, .react _ _ k next =>
    C.leads k₀ k ∧ C.holds k ∧ ∀ r k', C.Passes k k' → (next r k').Keeps C fits k'
  | k₀, .host _ k next =>
    C.leads k₀ k ∧ C.holds k ∧ ∀ r k', C.Passes k k' → (next r k').Keeps C fits k'
  | k₀, .call _ k next =>
    C.leads k₀ k ∧ C.holds k ∧ ∀ r k', C.Passes k k' → (next r k').Keeps C fits k'

/-- An activity keeps a contract and gives control back as the contract says. -/
def Safe (C : Contract κ) (k₀ : Kernel κ) (a : Activity κ α) : Prop :=
  a.Keeps C (fun _ k => C.Passes k₀ k) k₀

variable {C : Contract κ} {fits : α → Kernel κ → Prop} {k₀ : Kernel κ} {a : Activity κ α}

/-- What an activity has come to is a later moment of where it was begun. -/
theorem Keeps.leads_kernel (h : a.Keeps C fits k₀) : C.leads k₀ a.kernel := by
  cases a <;> exact h.1

/-- An activity that ends where the contract holds is at a kernel where it holds. -/
theorem Keeps.holds_kernel (h : a.Keeps C (fun _ k => C.holds k) k₀) : C.holds a.kernel := by
  cases a with
  | done x k => exact h.2
  | react code occasion k next | host p k next | call c k next => exact h.2.1

/-- An activity that was begun later was begun earlier. -/
theorem Keeps.earlier (ordered : C.Ordered) {k : Kernel κ} (l : C.leads k k₀)
    (h : a.Keeps C fits k₀) : a.Keeps C fits k := by
  cases a <;> exact ⟨ordered.trans l h.1, h.2⟩

/-- An activity that keeps a contract keeps it from where it is. -/
theorem Keeps.here (ordered : C.Ordered) (h : a.Keeps C fits k₀) :
    a.Keeps C fits a.kernel := by
  cases a <;> exact ⟨ordered.refl _, h.2⟩

/-- The second of two activities begins where the first one ends. -/
theorem Keeps.bind (ordered : C.Ordered) {f : α → Kernel κ → Activity κ β}
    {fits : β → Kernel κ → Prop} (h : a.Keeps C (fun x k => (f x k).Keeps C fits k) k₀) :
    (a.bind f).Keeps C fits k₀ := by
  induction a generalizing k₀ with
  | done x k => exact h.2.earlier ordered h.1
  | react code occasion k next ih =>
    exact ⟨h.1, h.2.1, fun r k' back => ih r k' (h.2.2 r k' back)⟩
  | host p k next ih => exact ⟨h.1, h.2.1, fun r k' back => ih r k' (h.2.2 r k' back)⟩
  | call c k next ih => exact ⟨h.1, h.2.1, fun r k' back => ih r k' (h.2.2 r k' back)⟩

/-- The answer fits whatever follows from what it fits. -/
theorem Keeps.mono {fits' : α → Kernel κ → Prop} (imp : ∀ x k, fits x k → fits' x k)
    (h : a.Keeps C fits k₀) : a.Keeps C fits' k₀ := by
  induction a generalizing k₀ with
  | done x k => exact ⟨h.1, imp x k h.2⟩
  | react code occasion k next ih =>
    exact ⟨h.1, h.2.1, fun r k' back => ih r k' (h.2.2 r k' back)⟩
  | host p k next ih => exact ⟨h.1, h.2.1, fun r k' back => ih r k' (h.2.2 r k' back)⟩
  | call c k next ih => exact ⟨h.1, h.2.1, fun r k' back => ih r k' (h.2.2 r k' back)⟩

/-- The end of an activity is later than its beginning. -/
theorem Keeps.led (ordered : C.Ordered) {k : Kernel κ} (l : C.leads k k₀)
    (h : a.Keeps C fits k₀) : a.Keeps C (fun x k' => C.leads k k' ∧ fits x k') k₀ := by
  induction a generalizing k₀ with
  | done x k' => exact ⟨h.1, ordered.trans l h.1, h.2⟩
  | react code occasion k' next ih | host p k' next ih | call c k' next ih =>
    exact ⟨h.1, h.2.1, fun r k'' back =>
      ih r k'' (ordered.trans (ordered.trans l h.1) back.leads) (h.2.2 r k'' back)⟩

/-- An activity that keeps a contract keeps one whose conditions are the same and that leaves less
open to host code and calls. -/
theorem Keeps.of_contract {D : Contract κ} (holds : ∀ k, D.holds k → C.holds k)
    (leads : ∀ k k', D.leads k k' → C.leads k k')
    (passes : ∀ k k', D.holds k → C.Passes k k' → D.Passes k k') (h : a.Keeps D fits k₀) :
    a.Keeps C fits k₀ := by
  induction a generalizing k₀ with
  | done x k => exact ⟨leads _ _ h.1, h.2⟩
  | react code occasion k next ih | host p k next ih | call c k next ih =>
    exact ⟨leads _ _ h.1, holds _ h.2.1, fun r k' back =>
      ih r k' (h.2.2 r k' (passes _ _ h.2.1 back))⟩

/-- An activity that has ended is safe if control comes back as the contract says. -/
theorem Safe.done {k : Kernel κ} {x : α} (back : C.Passes k₀ k) : (Activity.done x k).Safe C k₀ :=
  ⟨back.leads, back⟩

/-- A safe activity may begin after control was given away and came back. -/
theorem Safe.earlier (ordered : C.Ordered) {k : Kernel κ} (before : C.Passes k k₀)
    (h : a.Safe C k₀) : a.Safe C k :=
  (h.mono fun _ _ back => ordered.passes_trans before back).earlier ordered before.leads

/-- A safe activity may go on with another one that is safe. -/
theorem Safe.bind (ordered : C.Ordered) {f : α → Kernel κ → Activity κ β} (h : a.Safe C k₀)
    (rest : ∀ x k, C.holds k → (f x k).Safe C k) : (a.bind f).Safe C k₀ := by
  refine Keeps.bind ordered (h.mono fun x k back => ?_)
  exact (rest x k back.holds).mono fun _ _ later => ordered.passes_trans back later

/-- Host code that is due can be left in control. -/
theorem Safe.react (ordered : C.Ordered) {code : κ} {occasion : Occasion}
    {next : Except Fault Unit → Kernel κ → Activity κ α} (holds : C.holds k₀)
    (rest : ∀ r k, C.holds k → (next r k).Safe C k) :
    (Activity.react code occasion k₀ next).Safe C k₀ := by
  refine ⟨ordered.refl k₀, holds, fun r k back => ?_⟩
  exact (rest r k back.holds).mono fun _ _ later => ordered.passes_trans back later

/-- A call can be left in control. -/
theorem Safe.call (ordered : C.Ordered) {c : Call}
    {next : Except Fault c.Reply → Kernel κ → Activity κ α} (holds : C.holds k₀)
    (rest : ∀ r k, C.holds k → (next r k).Safe C k) :
    (Activity.call c k₀ next).Safe C k₀ := by
  refine ⟨ordered.refl k₀, holds, fun r k back => ?_⟩
  exact (rest r k back.holds).mono fun _ _ later => ordered.passes_trans back later

end Activity

/-- Commands, probes and calls keep the contract. -/
structure Contract.Sound (C : Contract κ) : Prop extends C.Ordered where
  /-- Every command, done or refused. -/
  command : ∀ (order : EdgeOrder κ) (c : Command κ) k, C.holds k → C.Passes k (c.perform order k).2
  /-- Every request to the instruments. -/
  probe : ∀ (p : Probe) k, C.holds k → C.Passes k (p.perform k).2
  /-- Every call, if the host code and the calls within it do. -/
  call : ∀ (order : EdgeOrder κ) (c : Call) k, C.holds k → (c.activity order k).Safe C k

namespace Activity

/-- The call that is made next, by host code or by an operation, is among the admitted ones. -/
def CallsOnly (calls : Call → Kernel κ → Prop) : Activity κ α → Prop
  | .host (.call c _) k _ => calls c k
  | .call c k _ => calls c k
  | _ => True

/-- Any number of steps of a run in which only admitted calls are made. -/
abbrev StepsCalling (calls : Call → Kernel κ → Prop) : Activity κ α → Activity κ α → Prop :=
  Relation.ReflTransGen fun a b => a.CallsOnly calls ∧ Step a b

/-- All calls of an activity are admitted if every call is. -/
theorem callsOnly_of_all {calls : Call → Kernel κ → Prop} (all : ∀ c k, calls c k)
    (a : Activity κ α) : a.CallsOnly calls := by
  cases a with
  | done x k | react code occasion k next => trivial
  | call c k next => exact all c k
  | host p k next =>
    cases p with
    | call c f => exact all c k
    | _ => trivial

/-- If all calls are admitted, then so are all runs. -/
theorem Steps.calling {calls : Call → Kernel κ → Prop} (all : ∀ c k, calls c k)
    {a b : Activity κ α} (h : Steps a b) : StepsCalling calls a b :=
  Relation.ReflTransGen.mono (fun a _ step => ⟨callsOnly_of_all all a, step⟩) a b h

/-- No command makes a call. -/
theorem stepsCalling_commands (calls : Call → Kernel κ → Prop) (order : EdgeOrder κ)
    (cs : List (Command κ)) (p : Program κ (Except Fault Unit)) (k : Kernel κ)
    (next : Except Fault Unit → Kernel κ → Activity κ α) :
    StepsCalling calls (.host ((Program.commands cs).bind fun _ => p) k next)
      (.host p (k.performAll order cs) next) := by
  induction cs generalizing k with
  | nil => exact .refl
  | cons c cs ih =>
    refine .head ⟨trivial, .command order c (fun _ => (Program.commands cs).bind fun _ => p) k
      next⟩ ?_
    exact ih (c.perform order k).2

end Activity

/-- Commands, probes and the admitted calls keep the contract. -/
structure Contract.SoundFor (C : Contract κ) (calls : Call → Kernel κ → Prop) : Prop
    extends C.Ordered where
  /-- Every command, done or refused. -/
  command : ∀ (order : EdgeOrder κ) (c : Command κ) k, C.holds k → C.Passes k (c.perform order k).2
  /-- Every request to the instruments. -/
  probe : ∀ (p : Probe) k, C.holds k → C.Passes k (p.perform k).2
  /-- Every admitted call, if the host code and the calls within it do. -/
  call : ∀ (order : EdgeOrder κ) (c : Call) k, calls c k → C.holds k →
    (c.activity order k).Safe C k

/-- A contract that all calls keep is kept by the admitted ones. -/
theorem Contract.Sound.soundFor {C : Contract κ} (sound : C.Sound)
    (calls : Call → Kernel κ → Prop) : C.SoundFor calls where
  toOrdered := sound.toOrdered
  command := sound.command
  probe := sound.probe
  call order c k _ := sound.call order c k

namespace Contract.SoundFor

variable {C : Contract κ} {calls : Call → Kernel κ → Prop} {fits : α → Kernel κ → Prop}
  {k₀ : Kernel κ} {a b : Activity κ α}

/-- What is left to do after a step keeps the contract. -/
theorem step (sound : C.SoundFor calls) (h : a.Keeps C fits k₀) (admits : a.CallsOnly calls)
    (step : Activity.Step a b) : b.Keeps C fits a.kernel := by
  have ordered := sound.toOrdered
  cases step with
  | start code occasion k next p => exact ⟨ordered.refl k, h.2⟩
  | finish r k next => exact h.2.2 r k (ordered.passes_refl h.2.1)
  | inspect f k next => exact ⟨ordered.refl k, h.2⟩
  | probe p f k next =>
    have done := sound.probe p k h.2.1
    exact ⟨done.leads, done.holds, fun r k' back => h.2.2 r k' (ordered.passes_trans done back)⟩
  | command order c f k next =>
    have done := sound.command order c k h.2.1
    exact ⟨done.leads, done.holds, fun r k' back => h.2.2 r k' (ordered.passes_trans done back)⟩
  | request order c f k next =>
    refine .bind ordered ((sound.call order c k admits h.2.1).mono fun reply k' done => ?_)
    exact ⟨ordered.refl k', done.holds,
      fun r k'' back => h.2.2 r k'' (ordered.passes_trans done back)⟩
  | call order c k next =>
    exact .bind ordered ((sound.call order c k admits h.2.1).mono fun reply k' done =>
      h.2.2 reply k' done)

/-- What keeps a contract keeps it in all steps in which only admitted calls are made. -/
theorem steps (sound : C.SoundFor calls) (h : a.Keeps C fits k₀)
    (steps : Activity.StepsCalling calls a b) : b.Keeps C fits a.kernel := by
  induction steps with
  | refl => exact h.here sound.toOrdered
  | tail _ next ih =>
    exact (sound.step ih next.1 next.2).earlier sound.toOrdered ih.leads_kernel

/-- Host code that has control of a new kernel keeps the contract. -/
theorem starts (sound : C.SoundFor calls)
    (fresh : ∀ settings templates, C.holds (Kernel.create settings templates))
    {begin : Activity κ (Except Fault Unit)} (h : Kernel.Starts begin) :
    begin.Keeps C (fun _ k => C.holds k) begin.kernel := by
  obtain ⟨settings, templates, p, rfl⟩ := h
  refine ⟨sound.refl _, fresh settings templates, ?_⟩
  intro r k' back
  exact ⟨sound.refl _, back.holds⟩

/-- The contract holds wherever a run with admitted calls has come to. -/
theorem visited (sound : C.SoundFor calls)
    (fresh : ∀ settings templates, C.holds (Kernel.create settings templates))
    {begin a : Activity κ (Except Fault Unit)} (h : Kernel.Starts begin)
    (steps : Activity.StepsCalling calls begin a) :
    C.holds a.kernel ∧ C.leads begin.kernel a.kernel := by
  have keeps := sound.steps (sound.starts fresh h) steps
  exact ⟨keeps.holds_kernel, keeps.leads_kernel⟩

end Contract.SoundFor

namespace Contract.Sound

variable {C : Contract κ} {fits : α → Kernel κ → Prop} {k₀ : Kernel κ} {a b : Activity κ α}

/-- What is left to do after a step keeps the contract. -/
theorem step (sound : C.Sound) (h : a.Keeps C fits k₀) (step : Activity.Step a b) :
    b.Keeps C fits a.kernel :=
  (sound.soundFor fun _ _ => True).step h (Activity.callsOnly_of_all (fun _ _ => trivial) a) step

/-- What keeps a contract keeps it in all steps. -/
theorem steps (sound : C.Sound) (h : a.Keeps C fits k₀) (steps : Activity.Steps a b) :
    b.Keeps C fits a.kernel :=
  (sound.soundFor fun _ _ => True).steps h (steps.calling fun _ _ => trivial)

variable {k k' : Kernel κ}

/-- Host code that is run to its end gives control back as the contract says. -/
theorem returns (sound : C.Sound) {code : κ} {occasion : Occasion} {r : Except Fault Unit}
    (holds : C.holds k) (reacts : Activity.Steps (.react code occasion k .done) (.done r k')) :
    C.Passes k k' := by
  have keeps : (Activity.react code occasion k .done).Keeps C (fun _ k' => C.Passes k k') k :=
    ⟨sound.refl k, holds, fun _ k' back => ⟨sound.refl k', back⟩⟩
  exact (sound.steps keeps reacts).2

/-- Host code that has control of a new kernel keeps the contract. -/
theorem starts (sound : C.Sound)
    (fresh : ∀ settings templates, C.holds (Kernel.create settings templates))
    {begin : Activity κ (Except Fault Unit)} (h : Kernel.Starts begin) :
    begin.Keeps C (fun _ k => C.holds k) begin.kernel :=
  (sound.soundFor fun _ _ => True).starts fresh h

/-- The contract holds wherever a run has come to. -/
theorem visited (sound : C.Sound)
    (fresh : ∀ settings templates, C.holds (Kernel.create settings templates))
    {begin a : Activity κ (Except Fault Unit)} (h : Kernel.Starts begin)
    (steps : Activity.Steps begin a) : C.holds a.kernel ∧ C.leads begin.kernel a.kernel :=
  (sound.soundFor fun _ _ => True).visited fresh h (steps.calling fun _ _ => trivial)

/-- The contract holds at every reachable kernel. -/
theorem reachable (sound : C.Sound)
    (fresh : ∀ settings templates, C.holds (Kernel.create settings templates))
    (h : k.Reachable) : C.holds k := by
  obtain ⟨begin, p, next, starts, steps⟩ := h
  exact (sound.visited fresh starts steps).1

/-- Between two moments of a run, a kernel changes only as the contract says. -/
theorem precedes (sound : C.Sound)
    (fresh : ∀ settings templates, C.holds (Kernel.create settings templates))
    (h : k.Precedes k') : C.leads k k' := by
  obtain ⟨begin, p, next, p', next', starts, steps, later⟩ := h
  exact (sound.steps (sound.steps (sound.starts fresh starts) steps) later).1

end Contract.Sound

/-! Two contracts at once. -/

/-- What two contracts say. -/
def Contract.both (C D : Contract κ) : Contract κ where
  holds k := C.holds k ∧ D.holds k
  leads k k' := C.leads k k' ∧ D.leads k k'
  returns k k' := C.returns k k' ∧ D.returns k k'

section

variable {C D : Contract κ} {k k' : Kernel κ}

/-- Control comes back as two contracts say if it does as each of them says. -/
theorem Contract.passes_both : (C.both D).Passes k k' ↔ C.Passes k k' ∧ D.Passes k k' := by
  constructor
  · intro h
    exact ⟨⟨h.holds.1, h.leads.1, h.returns.1⟩, ⟨h.holds.2, h.leads.2, h.returns.2⟩⟩
  · intro h
    exact ⟨⟨h.1.holds, h.2.holds⟩, ⟨h.1.leads, h.2.leads⟩, ⟨h.1.returns, h.2.returns⟩⟩

/-- Changes add up for two contracts if they do for each of them. -/
theorem Contract.Ordered.both (hC : C.Ordered) (hD : D.Ordered) : (C.both D).Ordered where
  refl k := ⟨hC.refl k, hD.refl k⟩
  trans h h' := ⟨hC.trans h.1 h'.1, hD.trans h.2 h'.2⟩
  returns_refl k := ⟨hC.returns_refl k, hD.returns_refl k⟩
  returns_trans h h' := ⟨hC.returns_trans h.1 h'.1, hD.returns_trans h.2 h'.2⟩

/-- An activity that keeps two contracts keeps them at once. -/
theorem Activity.Keeps.both {fits fits' : α → Kernel κ → Prop} {k₀ : Kernel κ}
    {a : Activity κ α} (h : a.Keeps C fits k₀) (h' : a.Keeps D fits' k₀) :
    a.Keeps (C.both D) (fun x k => fits x k ∧ fits' x k) k₀ := by
  induction a generalizing k₀ with
  | done x k => exact ⟨⟨h.1, h'.1⟩, h.2, h'.2⟩
  | react code occasion k next ih | host p k next ih | call c k next ih =>
    refine ⟨⟨h.1, h'.1⟩, ⟨h.2.1, h'.2.1⟩, fun r k' back => ?_⟩
    obtain ⟨back, back'⟩ := Contract.passes_both.mp back
    exact ih r k' (h.2.2 r k' back) (h'.2.2 r k' back')

/-- An activity is safe for two contracts if it is for each of them. -/
theorem Activity.Safe.both {k₀ : Kernel κ} {a : Activity κ α} (h : a.Safe C k₀)
    (h' : a.Safe D k₀) : a.Safe (C.both D) k₀ :=
  (Activity.Keeps.both h h').mono fun _ _ back => Contract.passes_both.mpr back

/-- Two contracts are sound together if each of them is. -/
theorem Contract.Sound.both (hC : C.Sound) (hD : D.Sound) : (C.both D).Sound where
  toOrdered := hC.toOrdered.both hD.toOrdered
  command order c k holds :=
    passes_both.mpr ⟨hC.command order c k holds.1, hD.command order c k holds.2⟩
  probe p k holds := passes_both.mpr ⟨hC.probe p k holds.1, hD.probe p k holds.2⟩
  call order c k holds := (hC.call order c k holds.1).both (hD.call order c k holds.2)

end

end ReactiveKernel
