import ReactiveKernel.Proofs.Instantiation.Survival
import ReactiveKernel.Proofs.Ledger.Drain

/-!
# A run of a template that fails

Running a template builds a root and then drains. If the template or the drain fails, the fault is
that of the step which failed, and nothing is left of the root and of what was built below it. A
drain that was started leaves nothing pending. While a drain is running another one is refused, so a
run within it always fails, and it leaves the outer drain where it was.
-/

namespace ReactiveKernel

variable {κ : Type}

namespace Kernel

open State Activity

variable {k k' m : Kernel κ} {order : EdgeOrder κ} {fault : Fault} {g n : Nat}

/-- Waves are given up for a fault, and what is pending is dropped. -/
inductive GivesUp : Fault → Kernel κ → Prop
  /-- No wave remains, and still something is pending. -/
  | overrun (m : Kernel κ) (pending : m.schedule.pending.isEmpty = false) :
    GivesUp (.cycleOverrun m.settings.waveLimit m.schedule.pending.size) m.overrun.2
  /-- A callback failed, and failures are to abort the drain. -/
  | aborted {k m : Kernel κ} {code : κ} {n : Notification} {fault : Fault}
    (failed : Steps (.react code (.notified n) (k.startCallback n) .done) (.done (.error fault) m))
    (policy : m.settings.onFailure = .abort) :
    GivesUp fault ((m.finishCallback n (.error fault)).abortDrain n fault)

/-- Nothing is pending when waves were given up. -/
theorem GivesUp.pending (h : GivesUp fault m) (id : SubscriptionId) : id ∉ m.schedule.pending := by
  cases h <;> exact Std.ExtTreeSet.not_mem_empty

/-- A wave is not delivered to its end only if a callback aborts it. -/
theorem givesUp_deliver {wave : List SubscriptionId} {tally tally' : WaveTally}
    (h : EndsIn n (k.deliver g wave tally) (.error fault, tally') k') : GivesUp fault k' := by
  induction wave generalizing k n tally with
  | nil => cases h.of_done.1
  | cons id rest ih =>
    simp only [deliver] at h
    split at h
    · exact ih h
    · obtain ⟨i, r, m, reacts, ends⟩ := h.of_react
      cases r with
      | ok u => exact ih ends
      | error failure =>
        simp only at ends
        split at ends
        · exact ih ends
        · next policy =>
          obtain ⟨same, rfl⟩ := ends.of_done
          cases same
          exact .aborted reacts policy

/-- Waves that fail are given up. -/
theorem givesUp_waves {remaining : Nat} {report report' : DrainReport}
    (h : EndsIn n (k.waves remaining report) (.error fault, report') k') : GivesUp fault k' := by
  induction remaining generalizing k n report with
  | zero =>
    unfold waves at h
    split at h
    · cases h.of_done.1
    · next pending =>
      obtain ⟨same, rfl⟩ := h.of_done
      cases same
      exact .overrun k (Bool.eq_false_iff.mpr pending)
  | succ remaining ih =>
    unfold waves at h
    split at h
    · cases h.of_done.1
    · obtain ⟨_, _, ⟨outcome, tally⟩, m, delivers, ends, _⟩ := h.of_bind
      cases outcome with
      | ok u => exact ih ends
      | error failure =>
        obtain ⟨same, rfl⟩ := ends.of_done
        cases same
        exact givesUp_deliver delivers

/-- How a drain fails: it is refused while another one is running, or its waves are given up. -/
inductive DrainFails (m : Kernel κ) : Fault → Kernel κ → Prop
  /-- A drain is running already. -/
  | refused (running : m.schedule.draining = true) : DrainFails m .reentrant m
  /-- It was started, and its waves were given up. -/
  | stopped {fault : Fault} {m' : Kernel κ} {report report' : DrainReport}
    (idle : m.schedule.draining = false)
    (waved : Steps (m.beginDrain.waves m.settings.waveLimit report)
      (.done (.error fault, report') m')) (gives_up : GivesUp fault m') :
    DrainFails m fault (m'.endDrain (.error fault) report')

/-- A drain that has come to a fault has failed in one of the ways in which it can. -/
theorem drainFails_of_steps (h : Steps m.drain (.done (.error fault) k')) :
    m.DrainFails fault k' := by
  unfold drain at h
  split at h
  · next running =>
    obtain ⟨same, rfl⟩ := h.of_done
    cases same
    exact .refused running
  · next idle =>
    dsimp only at h
    split at h
    · cases h.of_done.1
    · obtain ⟨_, ends⟩ := h.endsIn
      obtain ⟨_, _, ⟨outcome, report⟩, m', waves, ends, _⟩ := ends.of_bind
      obtain ⟨same, rfl⟩ := ends.of_done
      cases outcome with
      | ok u => cases same
      | error failure =>
        cases same
        exact .stopped (Bool.eq_false_iff.mpr idle) waves.steps (givesUp_waves waves)

/-- How a run fails: no template is found, the root cannot be built, or it is built and the drain
fails. -/
inductive RunFails (k : Kernel κ) (order : EdgeOrder κ) (name? : Option String) :
    Fault → Kernel κ → Prop
  /-- There is no template to run. -/
  | unresolved {fault : Fault} (missing : k.resolveRun name? = .error fault) :
    RunFails k order name? fault k
  /-- The root cannot be built. -/
  | unbuilt {fault : Fault} {name : String} {inner : EdgeOrder κ} {k' : Kernel κ}
    (resolved : k.resolveRun name? = .ok name)
    (raises : Raises inner (.instantiate name none []) k fault k') : RunFails k order name? fault k'
  /-- The drain fails. The root is destroyed, if it is still live; if the drain was started, nothing
  is pending then. -/
  | undrained {fault : Fault} {name : String} {inner : EdgeOrder κ} {m m' k' : Kernel κ}
    (resolved : k.resolveRun name? = .ok name)
    (built : Steps (k.instantiate inner name none []) (.done (.ok k.toState.nextClosure) m))
    (fails : m.DrainFails fault m')
    (undone : k' = (m'.log (.runFailed name k.toState.nextClosure fault)).raze order
      k.toState.nextClosure)
    (pending : m.schedule.draining = false → ∀ id, id ∉ k'.schedule.pending) :
    RunFails k order name? fault k'

/-- Removing a closure makes nothing pending. -/
theorem pending_raze (consistent : k.toState.Consistent) (order : EdgeOrder κ) (c : ClosureId) :
    (k.raze order c).schedule.pending = k.schedule.pending := by
  rw [toState_raze consistent.indexed consistent.forest.sound]
  rfl

/-- Nothing is pending after a drain has failed, unless it was refused. -/
theorem DrainFails.pending (h : m.DrainFails fault k') (idle : m.schedule.draining = false)
    (id : SubscriptionId) : id ∉ k'.schedule.pending := by
  cases h with
  | refused running => cases running.symm.trans idle
  | stopped _ _ gives_up => exact gives_up.pending id

/-- A closure that is destroyed after a drain has failed is gone, and all that has happened
meanwhile is told. Nothing is pending that the drain has not left so. -/
theorem razed_after_drain (accounted : m.Accounted) {m' : Kernel κ}
    (drains : Steps m.drain (.done (.error fault) m')) (order : EdgeOrder κ) (name : String)
    (c : ClosureId) :
    (∃ more, m.Chronicles more ((m'.log (.runFailed name c fault)).raze order c)) ∧
      c ∉ ((m'.log (.runFailed name c fault)).raze order c).closures ∧
      ((m'.log (.runFailed name c fault)).raze order c).schedule.pending = m'.schedule.pending := by
  have stable := Contract.telling_drainStable (κ := κ)
  have drained := (Contract.telling_sound.steps (stable.drain accounted) drains).2
  have logged := stable.act order (.log (.runFailed name c fault) rfl) drained.holds
  have consistent := Kernel.Accounted.consistent logged.holds
  have razed := stable.raze order c (.error fault : Except Fault ClosureId) logged.holds
  have passed := stable.passes_trans drained (stable.passes_trans logged razed.2)
  exact ⟨passed.chronicles, not_mem_raze consistent order c, pending_raze consistent order c⟩

/-- What a failed run leaves: nothing has happened, or the root was made and is gone, with all that
was built below it. -/
theorem failed_run (accounted : k.Accounted) {name? : Option String}
    (h : Steps (k.run order name?) (.done (.error fault) k')) :
    k.RunFails order name? fault k' ∧ (k' = k ∨ ∃ name rest, k.resolveRun name? = .ok name ∧
      k'.told = k.told ++ .closureCreated k.toState.nextClosure name none :: rest ∧
      k'.toState.FreeOf (.closureCreated k.toState.nextClosure name none :: rest)
        k.toState.nextClosure) := by
  unfold run at h
  cases resolved : k.resolveRun name? with
  | error missing =>
    rw [resolved] at h
    obtain ⟨same, rfl⟩ := h.of_done
    cases same
    exact ⟨.unresolved resolved, .inl rfl⟩
  | ok name =>
    rw [resolved] at h
    obtain ⟨inner, r, m, builds, h⟩ := h.of_call
    obtain ⟨i, built⟩ := builds.endsIn
    have built : EndsIn i (k.instantiate inner name none []) r m := built
    have outcome := outcome_instantiate accounted built
    cases r with
    | error failure =>
      obtain ⟨same, rfl⟩ := h.of_done
      cases same
      refine ⟨.unbuilt resolved (raises_of_endsIn (c := .instantiate name none []) rfl built), ?_⟩
      cases outcome with
      | refused => exact .inl rfl
      | lost _ dead told => exact .inr ⟨name, _, rfl, told.told, told.freeOf dead⟩
    | ok root =>
      cases outcome with
      | @kept _ rest live told =>
        obtain ⟨_, r, m', drains, h⟩ := h.of_call
        have drains : Steps m.drain (.done r m') := drains
        cases r with
        | ok report => cases h.of_done.1
        | error failure =>
          obtain ⟨same, rfl⟩ := h.of_done
          cases same
          obtain ⟨⟨more, later⟩, dead, pending⟩ :=
            razed_after_drain told.accounted drains order name k.toState.nextClosure
          have fails := drainFails_of_steps drains
          refine ⟨.undrained resolved built.steps fails rfl fun idle id => ?_,
            .inr ⟨name, rest ++ more, rfl, (told.trans later).told, (told.trans later).freeOf dead⟩⟩
          rw [pending]
          exact fails.pending idle id

/-- While a drain is running, a run fails. -/
theorem run_fails_of_draining (recorded : k.Recorded) (running : k.schedule.draining = true)
    {name? : Option String} {r : Except Fault ClosureId}
    (h : Steps (k.run order name?) (.done r k')) : ∃ fault, r = .error fault := by
  cases r with
  | error fault => exact ⟨fault, rfl⟩
  | ok root =>
    unfold run at h
    cases resolved : k.resolveRun name? with
    | error missing =>
      rw [resolved] at h
      cases h.of_done.1
    | ok name =>
      rw [resolved] at h
      obtain ⟨inner, r, m, builds, h⟩ := h.of_call
      have kept := Contract.recording_sound.call inner (.instantiate name none []) k recorded
      have resumes : k.Resumes m := (Contract.recording_sound.steps kept builds).2.returns
      cases r with
      | error failure => cases h.of_done.1
      | ok built =>
        obtain ⟨_, r, m', drains, h⟩ := h.of_call
        have refused : Call.drain.activity order m = .done (.error .reentrant) m :=
          if_pos (resumes.draining.trans running)
        have drains : Steps (Call.drain.activity order m) (.done r m') := drains
        rw [refused] at drains
        obtain ⟨rfl, rfl⟩ := drains.of_done
        cases h.of_done.1

/-- A run fails with the fault of the step that failed: no template was found, the root could not be
built, the drain overran, a callback aborted it, or it was refused. Then nothing has happened, or
the root was made and nothing is left of it and of what was built below it; if the drain was
started, nothing is pending. While a drain is running every run fails, and it leaves that drain on
its course: in the same generation and with the same turns to come. -/
theorem failed_run_leaves_no_root (h : k.Reachable) :
    (∀ order name? fault k', Steps (k.run order name?) (.done (.error fault) k') →
      k.RunFails order name? fault k' ∧
      (k' = k ∨ ∃ name rest,
        let root := k.toState.nextClosure
        let events := .closureCreated root name none :: rest
        k.resolveRun name? = .ok name ∧ k'.told = k.told ++ events ∧
          k'.toState.FreeOf events root)) ∧
    (k.schedule.draining = true → ∀ order name? r k',
      Steps (k.run order name?) (.done r k') → (∃ fault, r = .error fault) ∧ k.Resumes k') := by
  constructor
  · intro order name? fault k' steps
    exact failed_run h.accounted steps
  · intro running order name? r k' steps
    have safe := Contract.recording_sound.call order (.run name?) k h.recorded
    exact ⟨run_fails_of_draining h.recorded running steps,
      (Contract.recording_sound.steps safe steps).2.returns⟩

/-- A kernel whose entry template has host code, with a limit of two waves. -/
def launchable : Kernel Unit :=
  Kernel.create (Settings.standard.withWaveLimit 2)
    (TemplateLibrary.empty.insert "Main" (Template.empty.withInternal ()))

/-- A host whose code makes a collection for the new closure, and then adds an item to it whenever
it has changed. -/
def feeder : Host Unit where
  order := .ascending
  behave
    | _, .instantiated c =>
      .command (.createCollection "Log" [] (some c)) fun _ =>
      .command (.subscribe (.datum ⟨0⟩) (.datum ⟨0⟩) .everything ()) fun _ => .pure (.ok ())
    | _, _ => .command (.pushItem ⟨0⟩ .null) fun _ => .pure (.ok ())

/-- The root feeds itself, so the drain overruns, and the root is gone. -/
theorem failed_run_leaves_no_root_fed : launchable.Reachable ∧ ∃ rest k',
    Steps (launchable.run .ascending none) (.done (.error (.cycleOverrun 2 1)) k') ∧
      k'.toState.FreeOf (.closureCreated ⟨0⟩ "Main" none :: rest) ⟨0⟩ ∧
      k'.schedule.pending.isEmpty = true := by
  have reachable : launchable.Reachable := reachable_performAll .ascending _ _ []
  obtain ⟨k', steps, seen⟩ : ∃ k',
      Steps (launchable.run .ascending none) (.done (.error (.cycleOverrun 2 1)) k') ∧
      (k'.generation, k'.schedule.pending.isEmpty) = (2, true) :=
    feeder.exists_steps 3 (.run none) launchable _ rfl
  obtain ⟨now, empty⟩ := Prod.ext_iff.mp seen
  rcases ((failed_run_leaves_no_root reachable).1 _ _ _ _ steps).2 with
    same | ⟨name, rest, resolved, _, free⟩
  · cases same ▸ now
  · have main : "Main" = name := Except.ok.inj resolved
    exact ⟨reachable, rest, k', steps, main ▸ free, empty⟩

end Kernel

end ReactiveKernel
