import ReactiveKernel.Proofs.Effect.Murmurs
import ReactiveKernel.Proofs.Intake.Queue
import ReactiveKernel.Proofs.Run.Ending

/-!
# The queue while a drain is running

While a drain is running no event is applied, since that is refused. So whoever gets control then
can only put events, and these are what the queue gains.
-/

namespace ReactiveKernel

variable {κ : Type}

namespace Kernel

/-- What joined the queue is what was put. -/
def Gathers (k k' : Kernel κ) : Prop :=
  ∃ events, k'.puts = k.puts ++ events ∧ k'.inbox = k.inbox ++ events

variable {k k' k'' : Kernel κ}

theorem Gathers.trans (h : k.Gathers k') (h' : k'.Gathers k'') : k.Gathers k'' := by
  obtain ⟨events, puts, inbox⟩ := h
  obtain ⟨more, puts', inbox'⟩ := h'
  exact ⟨events ++ more, by rw [puts', puts, List.append_assoc],
    by rw [inbox', inbox, List.append_assoc]⟩

/-- The queue gathers nothing if nothing happens to outside events. -/
theorem SameIntake.gathers (h : k.SameIntake k') : k.Gathers k' :=
  ⟨[], by rw [h.puts, List.append_nil], by rw [h.inbox, List.append_nil]⟩

/-- An event that is put joins the queue. -/
theorem gathers_putEvent (k : Kernel κ) (event : Event κ) : k.Gathers (k.putEvent event) :=
  ⟨[event], puts_note _ _, rfl⟩

/-- What joins the queue by a deed is what was put. -/
theorem Deed.gathers {order : EdgeOrder κ} (h : k.Deed order k') : k.Gathers k' := by
  rcases h.sameIntake with ⟨event, rfl⟩ | same
  · exact gathers_putEvent k event
  · exact same.gathers

end Kernel

/-- The settings never change, and while a drain is running, whoever gets control leaves it running
and lets the queue gather what is put. -/
def Contract.patience (κ : Type) : Contract κ :=
  ⟨fun k => k.toState.Consistent, fun k k' => k'.settings = k.settings, fun k k' =>
    k.schedule.draining = true → k'.schedule.draining = true ∧ k.Gathers k'⟩

/-- A drain is running, and the queue gathers what is put. -/
def Contract.gathering (κ : Type) : Contract κ :=
  ⟨fun k => k.toState.Consistent ∧ k.schedule.draining = true,
    fun k k' => k'.settings = k.settings, Kernel.Gathers⟩

namespace Contract

open Kernel

/-- What is left alone step by step is left alone. -/
theorem patience_ordered : (patience κ).Ordered where
  refl _ := rfl
  trans h h' := Eq.trans h' h
  returns_refl k draining := ⟨draining, (Undisturbed.refl k).gathers⟩
  returns_trans h h' draining := by
    obtain ⟨running, gathers⟩ := h draining
    obtain ⟨running', gathers'⟩ := h' running
    exact ⟨running', gathers.trans gathers'⟩

/-- Deeds leave a drain running and let the queue gather what is put. -/
theorem patience_steady : (patience κ).Steady where
  toOrdered := patience_ordered
  deed _ _ _ done consistent := by
    obtain ⟨_, effect⟩ := done.action.effect consistent
    exact ⟨effect.consistent consistent, effect.settings, fun draining =>
      ⟨effect.draining.trans draining, done.gathers⟩⟩

/-- A wave that is delivered lets the queue gather what is put. -/
theorem gathering_waveStable : (gathering κ).WaveStable where
  refl _ := rfl
  trans h h' := Eq.trans h' h
  returns_refl k := (Undisturbed.refl k).gathers
  returns_trans := Gathers.trans
  waveAct action running holds :=
    ⟨⟨(consistency_drainStable.drainAct action holds.1).holds, running.trans holds.2⟩,
      action.settings, action.undisturbed.gathers⟩

/-- Waves let the queue gather what is put, if host code does. -/
theorem gathers_waves (remaining : Nat) (report : DrainReport) {k : Kernel κ}
    (consistent : k.toState.Consistent) (running : k.schedule.draining = true) :
    (k.waves remaining report).Keeps (patience κ) (fun _ k' => (gathering κ).Passes k k') k :=
  .of_contract (D := gathering κ) (fun _ holds => holds.1) (fun _ _ same => same)
    (fun _ _ holds back =>
      ⟨⟨back.holds, (back.returns holds.2).1⟩, back.leads, (back.returns holds.2).2⟩)
    (gathering_waveStable.waves remaining report ⟨consistent, running⟩)

/-- A drain lets the queue gather what is put, if host code does. -/
theorem gathers_drain {k : Kernel κ} (consistent : k.toState.Consistent) :
    k.drain.Keeps (patience κ) (fun _ k' => k.Gathers k') k := by
  unfold Kernel.drain
  split
  · exact ⟨rfl, (Undisturbed.refl k).gathers⟩
  · dsimp only
    split
    · exact ⟨rfl, (Undisturbed.refl k).gathers⟩
    · have begun : k.Gathers k.beginDrain :=
        ((Undisturbed.emit k _).trans (.mapState _ ⟨rfl, rfl⟩)).gathers
      have kept := (consistency_drainStable.beginDrain consistent).holds
      have waves := gathers_waves k.settings.waveLimit (.startingAt k.generation) kept rfl
      have same : (patience κ).leads k k.beginDrain := rfl
      refine .bind patience_ordered (.earlier patience_ordered same (waves.mono ?_))
      rintro ⟨outcome, report⟩ k' waved
      have rest : Undisturbed k' (k'.endDrain outcome report) :=
        (Undisturbed.mapState k' ⟨rfl, rfl⟩).trans ((Undisturbed.emit _ _).trans (.log _ _))
      exact ⟨rfl, begun.trans (waved.returns.trans rest.gathers)⟩

/-- Outside of drains, patience asks for nothing. -/
theorem patience_idle (order : EdgeOrder κ) (c : Call) {k : Kernel κ}
    (consistent : k.toState.Consistent) (idle : k.schedule.draining = false) :
    (c.activity order k).Safe (patience κ) k := by
  have steady : (c.activity order k).Safe (steadiness κ) k :=
    steadiness_drainStable.call (fun _ holds => steadiness_drainStable.drain holds) order c
      consistent
  refine Safe.of_steadiness (fun _ => .rfl) (fun _ _ => .rfl) (fun _ draining => ?_) steady
  rw [idle] at draining
  cases draining

/-- Whoever gets control leaves a drain running and lets the queue gather what is put. -/
theorem patience_sound : (patience κ).Sound where
  toOrdered := patience_ordered
  command order c _ consistent := patience_steady.deed order (.command c) consistent
  probe p k consistent := by
    have state := toState_probe p k
    have running := congrArg (fun s => s.schedule.draining) state
    have kept : (p.perform k).2.toState.Consistent := state ▸ consistent
    exact ⟨kept, congrArg State.settings state, fun draining =>
      ⟨running.trans draining, (undisturbed_probe p k).gathers⟩⟩
  call order c k consistent := by
    cases running : k.schedule.draining with
    | false => exact patience_idle order c consistent running
    | true =>
      cases c with
      | instantiate template parent params =>
        exact patience_steady.instantiate order template parent params consistent
      | callSite parent index => exact patience_steady.callSite order parent index consistent
      | run template => exact patience_steady.run order template consistent
      | drain =>
        have refused : Call.drain.activity order k = .done (.error .reentrant) k :=
          if_pos running
        rw [refused]
        exact .done (patience_ordered.passes_refl consistent)
      | drainEvents =>
        have refused : Call.drainEvents.activity order k = .done (.error .reentrant) k :=
          if_pos running
        rw [refused]
        exact .done (patience_ordered.passes_refl consistent)

end Contract

namespace Kernel

/-- After a drain that returns, the queue has gathered what was put meanwhile. -/
theorem gathers_of_drain (h : Host κ) {depth : Nat} {k k' : Kernel κ}
    {r : Except Fault DrainReport} (consistent : k.toState.Consistent)
    (run : (h.engine depth).call .drain k = some (r, k')) : k.Gathers k' := by
  have steps := (h.follows depth).call .drain k r k' run
  exact (Contract.patience_sound.steps (Contract.gathers_drain consistent) steps).2

end Kernel

end ReactiveKernel
