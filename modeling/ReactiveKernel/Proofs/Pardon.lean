import ReactiveKernel.Proofs.Pardon.Course

/-!
# Failed callbacks are confined

A failed callback is counted and reported, and that is all, unless it is to stop the drain. What it
has done before it failed counts as if it had returned normally, and so does what comes after it.
Where no callback fails, the policy for failures does not matter.
-/

namespace ReactiveKernel

variable {κ : Type}

namespace Contrast

/-- The callbacks of the second run return normally where those of the first one fail. -/
def pardon : Contrast := ⟨id, true, fun _ => rfl, fun _ => rfl⟩

/-- The second run has a policy of its own for failed callbacks. -/
def withPolicy (policy : FailurePolicy) : Contrast :=
  ⟨(·.withOnFailure policy), false, fun _ => rfl, fun _ => rfl⟩

end Contrast

/-- Host code other than callbacks does the same no matter how many failures a report counts. -/
def Script.OverlooksFailures (s : Script κ) : Prop :=
  ∀ n code occasion, (∀ m, occasion ≠ .notified m) →
    (s.behave n code occasion).Overlooks .pardon false

/-- Callbacks never see the report of a drain. -/
theorem Program.overlooks_pardon {α : Type} (p : Program κ α) : p.Overlooks .pardon true := by
  induction p with
  | pure a => trivial
  | inspect next ih => exact ⟨fun _ => rfl, ih⟩
  | probe q next ih => exact ih
  | command c next ih => exact ih
  | call c next ih =>
    refine ⟨fun r r' same => ?_, ih⟩
    obtain rfl : r' = r := same
    rfl

/-- A script that overlooks failures goes on in the same way if they are passed over. -/
theorem Script.OverlooksFailures.overlooks {s : Script κ} (h : s.OverlooksFailures) :
    s.Overlooks .pardon :=
  ⟨fun n code m => (s.behave n code (.notified m)).overlooks_pardon, h,
    fun n => (s.order n).overlooks_id⟩

/-- Another policy alone does not amend a script. -/
theorem Script.amended_withPolicy (s : Script κ) (policy : FailurePolicy) :
    s.amended (Contrast.withPolicy policy).mend = s := by
  have same : (fun n code occasion => (s.behave n code occasion).amended id) = s.behave := by
    funext n code occasion
    exact Program.amended_id _
  exact congrArg (Script.mk · s.order) same

namespace Kernel

open Activity

/-- A new kernel with which host code works, and then a call. -/
def session (settings : Settings) (templates : TemplateLibrary κ)
    (p : Program κ (Except Fault Unit)) (c : Call) : Activity κ (Except Fault c.Reply) :=
  .host p (create settings templates) fun _ k => .call c k .done

variable {settings : Settings} {templates : TemplateLibrary κ} {p : Program κ (Except Fault Unit)}
  {c : Call} {C : Contrast} {s : Script κ}

/-- What the journal of a session tells of failed callbacks is not taken back. -/
theorem keeps_session : (session settings templates p c).Keeps (.retention κ)
    (fun _ k => k.toState.Consistent) (create settings templates) := by
  refine ⟨id, consistent_create settings templates, fun _ k back => ?_⟩
  exact ⟨id, back.holds, fun _ k' back' => ⟨id, back'.holds⟩⟩

/-- New kernels are beside each other. -/
theorem beside_create (again : ∀ s, C.settle (C.settle s) = C.settle s)
    (policy : C.forgives = true → settings.onFailure = .log) :
    C.Beside false (create settings templates) (create (C.settle settings) templates) := by
  have heard : C.heard (.logged (.kernelCreated templates.size (C.settle settings)) :
      Occurrence κ) = C.heard (.logged (.kernelCreated templates.size settings)) := by
    simp only [Contrast.heard, Occurrence.resettled, again]
  have hears : C.hears (create (C.settle settings) templates) =
      C.hears (create settings templates) := by
    rw [create, create, log, log, Contrast.hears_note, Contrast.hears_note, heard]
    rfl
  exact ⟨⟨rfl, rfl, hears⟩, consistent_create settings templates, rfl, policy⟩

/-- Sessions of both runs are coupled. -/
theorem coupled_session (overlooks : p.Overlooks C false)
    (beside : C.Beside false (create settings templates) (create (C.settle settings) templates)) :
    C.Coupled (C.Returned false c) (session settings templates p c)
      (session (C.settle settings) templates p c) := by
  have amended : C.Coupled (C.Returned false c) (session settings templates p c)
      (session (C.settle settings) templates (p.amended (C.mend .invoked)) c) := by
    refine .host p .invoked overlooks beside (fun _ _ _ _ back => ?_) fun r _ fails _ => ?_
    · exact .call c back fun _ _ _ _ alike after => .done ⟨alike, after⟩
    · exact absurd (Contrast.bears_other (by simp) r) fails
  have unmended : C.mend .invoked = id := funext (Contrast.mend_other (by simp))
  rwa [unmended, p.amended_id] at amended

/-- Runs of host code on new kernels agree wherever they have come to, unless a callback has failed
and that is not passed over. -/
theorem agree_session (again : ∀ s, C.settle (C.settle s) = C.settle s)
    (policy : C.forgives = true → settings.onFailure = .log) (overlooks : s.Overlooks C)
    (blind : p.Overlooks C false) (n : Nat)
    (spared : C.forgives = true ∨ ¬((session settings templates p c).after s n).kernel.Faulted) :
    C.Agree c ((session settings templates p c).after s n)
      ((session (C.settle settings) templates p c).after (s.amended C.mend) n) :=
  ((coupled_session blind (beside_create again policy)).after overlooks keeps_session n
    spared).agree

/-- Failed callbacks do not leak into the kernel. Host code works with a new kernel and then makes a
call. If failures of callbacks are to be logged, it makes no difference whether callbacks fail or
make the same requests and return normally: after every number of steps, whatever the callbacks do,
the state, the trace, the callbacks that start, the answers to commands and the result of the call
are the same, and so is the journal, but for the warnings of failed callbacks and the count of
failures in the reports of drains. And as long as no callback has failed, the run is the same under
every policy for failures. Host code other than callbacks does not look at what is told of failures
in the one case, and no host code looks at the policy in the other. -/
theorem failures_confined (s : Script κ) (settings : Settings) (templates : TemplateLibrary κ)
    (p : Program κ (Except Fault Unit)) (c : Call) :
    (settings.onFailure = .log → s.OverlooksFailures → p.Overlooks .pardon false →
      ∀ n, Contrast.pardon.Agree c ((session settings templates p c).after s n)
        ((session settings templates p c).after (s.amended Occasion.pardon) n)) ∧
    ∀ policy, s.Overlooks (.withPolicy policy) → p.Overlooks (.withPolicy policy) false →
      ∀ n, ¬((session settings templates p c).after s n).kernel.Faulted →
        (Contrast.withPolicy policy).Agree c ((session settings templates p c).after s n)
          ((session (settings.withOnFailure policy) templates p c).after s n) := by
  refine ⟨fun logs overlooks blind n => ?_, fun policy overlooks blind n unfaulted => ?_⟩
  · exact agree_session (C := .pardon) (fun _ => rfl) (fun _ => logs) overlooks.overlooks blind n
      (.inl rfl)
  · have agree := agree_session (C := .withPolicy policy) (fun _ => rfl) nofun overlooks blind n
      (.inr unfaulted)
    rw [s.amended_withPolicy policy] at agree
    exact agree

/-- Callbacks set a field, and some fail then. -/
def diligent : Script Bool where
  behave _ fails _ := .command (.set (.datum ⟨0⟩) "done" (.bool true)) fun _ =>
    .pure (if fails then .error .reentrant else .ok ())
  order _ := .ascending

/-- A datum is made and changed, and its changes are subscribed to in between. -/
def chores (fails : Bool) : Program Bool (Except Fault Unit) := .commands
  [.createDatum "Chore" [] none, .subscribe (.datum ⟨0⟩) (.datum ⟨0⟩) .everything fails,
   .set (.datum ⟨0⟩) "due" (.bool true)]

/-- A drain after that. -/
def errand (policy : FailurePolicy) (fails : Bool) : Activity Bool (Except Fault DrainReport) :=
  session (Settings.standard.withOnFailure policy) .empty (chores fails) .drain

/-- The waves and the failures of a drain that has ended. -/
def tallied (a : Activity Bool (Except Fault DrainReport)) : Option (Except Fault (Nat × Nat)) :=
  a.result?.map (Except.map fun r => (r.waves, r.callbackFailures))

/-- A callback fails in two waves, the second of which it has caused itself. If it returns normally,
then there are two waves all the same. Without failures, the run is the same under both policies. -/
theorem failures_confined_errand :
    diligent.OverlooksFailures ∧ (chores true).Overlooks .pardon false ∧
    tallied ((errand .log true).after diligent 11) = some (.ok (2, 2)) ∧
    tallied ((errand .log true).after (diligent.amended Occasion.pardon) 11) = some (.ok (2, 0)) ∧
    Contrast.pardon.Agree .drain ((errand .log true).after diligent 11)
      ((errand .log true).after (diligent.amended Occasion.pardon) 11) ∧
    diligent.Overlooks (.withPolicy .abort) ∧
    (chores false).Overlooks (.withPolicy .abort) false ∧
    ¬((errand .log false).after diligent 11).kernel.Faulted ∧
    tallied ((errand .log false).after diligent 11) = some (.ok (2, 0)) ∧
    (Contrast.withPolicy .abort).Agree .drain ((errand .log false).after diligent 11)
      ((errand .abort false).after diligent 11) := by
  have confined (fails : Bool) := failures_confined diligent (Settings.standard.withOnFailure .log)
    .empty (chores fails) .drain
  have overlooks : diligent.OverlooksFailures := fun _ _ _ _ _ => trivial
  have plain : (chores true).Overlooks .pardon false := fun _ _ _ => trivial
  have blind : diligent.Overlooks (.withPolicy .abort) :=
    ⟨fun _ _ _ _ => trivial, fun _ _ _ _ _ => trivial, fun _ _ _ _ => rfl⟩
  have plain' : (chores false).Overlooks (.withPolicy .abort) false := fun _ _ _ => trivial
  have unfaulted : ¬((errand .log false).after diligent 11).kernel.Faulted := by decide +kernel
  exact ⟨overlooks, plain, by decide +kernel, by decide +kernel,
    (confined true).1 rfl overlooks plain 11, blind, plain', unfaulted, by decide +kernel,
    (confined false).2 .abort blind plain' 11 unfaulted⟩

end Kernel

end ReactiveKernel
