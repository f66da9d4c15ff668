import ReactiveKernel.Proofs.Drain.Stop
import ReactiveKernel.Proofs.Effect.Murmurs

/-!
# What the waves of a drain leave behind

Waves leave the settings alone, and the state stays consistent. So why the waves of a drain came to
their end tells what the drain returns.
-/

namespace ReactiveKernel

variable {κ : Type}

namespace Contract

open Kernel

/-- Settings never change, whatever is asked for. -/
theorem steadiness_sound : (steadiness κ).Sound :=
  steadiness_drainStable.sound fun p k consistent => by
    have state := toState_probe p k
    exact ⟨(consistency_sound.probe p k consistent).holds, congrArg State.settings state, trivial⟩

/-- The delivery of a wave fails only if failures are to abort a drain. -/
theorem steadiness_deliver (g : Nat) (wave : List SubscriptionId) (tally : WaveTally)
    {k : Kernel κ} (consistent : k.toState.Consistent) :
    (k.deliver g wave tally).Keeps (steadiness κ) (fun r m => m.toState.Consistent ∧
      ∀ fault, r.1 = .error fault → k.settings.onFailure = .abort) k := by
  have ordered := (steadiness_drainStable (κ := κ)).toOrdered
  induction wave generalizing tally k with
  | nil => exact ⟨rfl, consistent, by simp⟩
  | cons id rest ih =>
    simp only [Kernel.deliver]
    split
    · have others :=
        ih (k := k.log (.stale id g)) { tally with stale := tally.stale + 1 } consistent
      exact others.earlier ordered (by rfl)
    · next s code _ =>
      let n : Notification := ⟨id, s.source, s.target, g⟩
      refine ⟨rfl, consistent, fun outcome m back => ?_⟩
      have same : m.settings = k.settings := back.leads
      cases outcome with
      | ok u =>
        have others := ih (k := m.finishCallback n (.ok u))
          { tally with callbacks := tally.callbacks + 1 } back.holds
        refine (others.mono fun r m' ended => ?_).earlier ordered (by rfl)
        exact ⟨ended.1, fun fault failed => same ▸ ended.2 fault failed⟩
      | error fault =>
        simp only
        split
        · have others := ih
            (k := (m.finishCallback n (.error fault)).log (.callbackFailed id g fault))
            { tally with callbacks := tally.callbacks + 1, failures := tally.failures + 1 }
            back.holds
          refine (others.mono fun r m' ended => ?_).earlier ordered (by rfl)
          exact ⟨ended.1, fun fault failed => same ▸ ended.2 fault failed⟩
        · next policy =>
          have discarded := (consistency_drainStable.drainAct
            (.reschedule m.schedule.discard (by simp [Schedule.discard])) back.holds).holds
          exact ⟨rfl, discarded, fun _ _ => same ▸ policy⟩

end Contract

namespace Kernel

open Activity Contract

variable {k k' m : Kernel κ} {n : Nat} {report report' : DrainReport} {cs : List (Choice κ)}
  {stop : Stop} {outcome : Except Fault DrainReport}

/-- A wave is taken from a consistent state. -/
theorem consistent_takeWave (consistent : k.toState.Consistent) :
    k.takeWave.2.toState.Consistent :=
  (consistency_drainStable.drainAct (.reschedule k.schedule.takeWave (by simp [Schedule.takeWave]))
    consistent).holds

/-- What the delivery of a wave leaves behind. -/
theorem nextWave_ended {r : Except Fault Unit × WaveTally} (consistent : k.toState.Consistent)
    (ended : Follows cs k.nextWave (.done r m)) : m.toState.Consistent ∧
      m.settings = k.settings ∧ ∀ fault, r.1 = .error fault → k.settings.onFailure = .abort := by
  have keeps := steadiness_deliver k.takeWave.2.generation k.takeWave.1 ⟨0, 0, 0⟩
    (consistent_takeWave consistent)
  have settled := keeps.led steadiness_sound.toOrdered (k := k) (by rfl)
  obtain ⟨settings, consistent', policy⟩ := (steadiness_sound.steps settled ended.steps).2
  exact ⟨consistent', settings, policy⟩

/-- Waves leave the settings alone. -/
theorem Waved.settings (h : Waved n k report cs m report') (consistent : k.toState.Consistent) :
    m.toState.Consistent ∧ m.settings = k.settings := by
  induction h with
  | none k report => exact ⟨consistent, rfl⟩
  | next _ delivered _ ih =>
    obtain ⟨consistent', settings, _⟩ := nextWave_ended consistent delivered
    obtain ⟨consistent'', settings'⟩ := ih consistent'
    exact ⟨consistent'', settings'.trans settings⟩

/-- Why a drain has come to its end tells what it returns. -/
theorem Stops.returns (stops : k.Stops cs stop outcome k') (consistent : k.toState.Consistent) :
    (stop = .exhausted → ∃ report, outcome = .ok report) ∧
    (stop = .limit → ∃ due, outcome = .error (.cycleOverrun k.settings.waveLimit due)) ∧
    (∀ fault, stop = .aborted fault →
      outcome = .error fault ∧ k.settings.onFailure = .abort) := by
  obtain ⟨result, report, m, halted, rfl, rfl⟩ := stops
  have begun := (consistency_drainStable.beginDrain consistent).holds
  cases halted with
  | exhausted waved within nothing => exact ⟨fun _ => ⟨_, rfl⟩, nofun, nofun⟩
  | limit waved due =>
    have same : _ = k.settings := (waved.settings begun).2
    refine ⟨nofun, fun _ => ?_, nofun⟩
    rw [← same]
    exact ⟨_, rfl⟩
  | aborted waved room due broken =>
    obtain ⟨consistent', same⟩ := waved.settings begun
    refine ⟨nofun, nofun, ?_⟩
    rintro fault ⟨⟩
    have policy := (nextWave_ended consistent' broken).2.2 _ rfl
    rw [same] at policy
    exact ⟨rfl, policy⟩

end Kernel

end ReactiveKernel
