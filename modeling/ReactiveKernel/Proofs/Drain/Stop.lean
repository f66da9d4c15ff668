import ReactiveKernel.Proofs.Run.Choice

/-!
# Why the waves of a drain come to their end

A drain runs waves to their ends, one after another, until nothing is due, until something is due
and no wave remains, or until a callback aborts a wave. Every drain that comes to an end does so in
one of these ways, and whatever does so is a drain that comes to its end.
-/

namespace ReactiveKernel

variable {κ : Type}

/-- Why the waves of a drain come to their end. -/
inductive Stop where
  /-- Nothing is due any more. -/
  | exhausted
  /-- Something is due, and no wave remains. -/
  | limit
  /-- A callback has failed with this fault, which is to abort the drain. -/
  | aborted (fault : Fault)

namespace Kernel

open Activity

/-- The delivery of what is pending as a wave. -/
def nextWave (k : Kernel κ) : Activity κ (Except Fault Unit × WaveTally) :=
  k.takeWave.2.deliver k.takeWave.2.generation k.takeWave.1 ⟨0, 0, 0⟩

/-- The kernel when the wave that was taken from another one has been delivered. -/
def concludeWave (k m : Kernel κ) (tally : WaveTally) : Kernel κ :=
  m.emit (.generationDrained k.takeWave.2.generation tally.callbacks)

/-- The report when the wave that was taken from a kernel has ended. -/
def countWave (k : Kernel κ) (report : DrainReport) (tally : WaveTally) : DrainReport :=
  (report.openWave k.takeWave.2.generation).closeWave tally

/-- How waves go on when one of them has ended. -/
def goOn (k : Kernel κ) (remaining : Nat) (report : DrainReport)
    (r : Except Fault Unit × WaveTally) (m : Kernel κ) :
    Activity κ (Except Fault Unit × DrainReport) :=
  match r.1 with
  | .error fault => .done (.error fault, k.countWave report r.2) m
  | .ok () => (k.concludeWave m r.2).waves remaining (k.countWave report r.2)

/-- Waves were run to their ends, one after another, by these choices. -/
inductive Waved : Nat → Kernel κ → DrainReport → List (Choice κ) → Kernel κ → DrainReport → Prop
  /-- No wave. -/
  | none (k : Kernel κ) (report : DrainReport) : Waved 0 k report [] k report
  /-- A wave of what is due, and then further ones. -/
  | next {n : Nat} {k m k' : Kernel κ} {report report' : DrainReport} {tally : WaveTally}
    {cs ds : List (Choice κ)} (due : k.schedule.pending.isEmpty = false)
    (delivered : Follows cs k.nextWave (.done (.ok (), tally) m))
    (rest : Waved n (k.concludeWave m tally) (k.countWave report tally) ds k' report') :
    Waved (n + 1) k report (cs ++ ds) k' report'

/-- Waves have come to their end for some reason, with a result and a kernel. -/
inductive Halted (remaining : Nat) (k : Kernel κ) (report : DrainReport) :
    List (Choice κ) → Stop → Except Fault Unit × DrainReport → Kernel κ → Prop
  /-- Nothing is due any more. -/
  | exhausted {n : Nat} {cs : List (Choice κ)} {m : Kernel κ} {report' : DrainReport}
    (waved : Waved n k report cs m report') (within : n ≤ remaining)
    (nothing : m.schedule.pending.isEmpty = true) :
    Halted remaining k report cs .exhausted (.ok (), report') m
  /-- All waves that remained were run to their ends, and something is due. -/
  | limit {cs : List (Choice κ)} {m : Kernel κ} {report' : DrainReport}
    (waved : Waved remaining k report cs m report') (due : m.schedule.pending.isEmpty = false) :
    Halted remaining k report cs .limit (.error m.overrun.1, report') m.overrun.2
  /-- One more wave remained, and a callback has aborted it. -/
  | aborted {n : Nat} {cs ds : List (Choice κ)} {m m' : Kernel κ} {report' : DrainReport}
    {tally : WaveTally} {fault : Fault} (waved : Waved n k report cs m report')
    (room : n < remaining) (due : m.schedule.pending.isEmpty = false)
    (broken : Follows ds m.nextWave (.done (.error fault, tally) m')) :
    Halted remaining k report (cs ++ ds) (.aborted fault)
      (.error fault, m.countWave report' tally) m'

variable {n remaining : Nat} {k m k' : Kernel κ} {report report' : DrainReport}
  {tally : WaveTally} {cs ds : List (Choice κ)} {stop : Stop}
  {result : Except Fault Unit × DrainReport}

/-- The waves of a drain end if nothing is pending. -/
theorem waves_of_nothing (remaining : Nat) (report : DrainReport)
    (nothing : k.schedule.pending.isEmpty = true) :
    k.waves remaining report = .done (.ok (), report) k := by
  unfold waves
  rw [if_pos nothing]

/-- The waves of a drain overrun if something is pending and none remains. -/
theorem waves_zero (report : DrainReport) (due : k.schedule.pending.isEmpty = false) :
    k.waves 0 report = .done (.error k.overrun.1, report) k.overrun.2 := by
  unfold waves
  rw [if_neg (by simp [due])]

/-- If something is pending and a wave remains, that wave comes first. -/
theorem waves_succ (remaining : Nat) (report : DrainReport)
    (due : k.schedule.pending.isEmpty = false) :
    k.waves (remaining + 1) report = k.nextWave.bind (k.goOn remaining report) := by
  rw [waves, if_neg (by simp [due])]
  refine congrArg (k.nextWave.bind ·) (funext fun r => funext fun m => ?_)
  obtain ⟨outcome, tally⟩ := r
  cases outcome <;> rfl

/-- If something is due after waves were run to their ends, something was due before. -/
theorem Waved.due (h : Waved n k report cs m report') (due : m.schedule.pending.isEmpty = false) :
    k.schedule.pending.isEmpty = false := by
  cases h with
  | none => exact due
  | next first => exact first

/-- Waves that have come to their end after a wave have done so with that wave as well. -/
theorem Halted.cons (due : k.schedule.pending.isEmpty = false)
    (delivered : Follows cs k.nextWave (.done (.ok (), tally) m))
    (rest : Halted remaining (k.concludeWave m tally) (k.countWave report tally) ds stop result
      k') : Halted (remaining + 1) k report (cs ++ ds) stop result k' := by
  cases rest with
  | exhausted waved within nothing =>
    exact .exhausted (.next due delivered waved) (Nat.succ_le_succ within) nothing
  | limit waved still => exact .limit (.next due delivered waved) still
  | aborted waved room still broken =>
    rw [← List.append_assoc]
    exact .aborted (.next due delivered waved) (Nat.succ_lt_succ room) still broken

/-- Waves that come to their end do so for some reason. -/
theorem halted_of_follows (h : Follows cs (k.waves remaining report) (.done result k')) :
    ∃ stop, Halted remaining k report cs stop result k' := by
  induction remaining generalizing k report cs with
  | zero =>
    cases pending : k.schedule.pending.isEmpty with
    | true =>
      rw [waves_of_nothing 0 report pending] at h
      obtain ⟨rfl, same⟩ := h.of_done
      cases same
      exact ⟨_, .exhausted (.none _ report) (Nat.le_refl 0) pending⟩
    | false =>
      rw [waves_zero report pending] at h
      obtain ⟨rfl, same⟩ := h.of_done
      cases same
      exact ⟨_, .limit (.none _ report) pending⟩
  | succ remaining ih =>
    cases pending : k.schedule.pending.isEmpty with
    | true =>
      rw [waves_of_nothing _ report pending] at h
      obtain ⟨rfl, same⟩ := h.of_done
      cases same
      exact ⟨_, .exhausted (.none _ report) (Nat.zero_le _) pending⟩
    | false =>
      rw [waves_succ remaining report pending] at h
      obtain ⟨before, after, ⟨outcome, tally⟩, m, rfl, delivered, rest⟩ := h.of_bind
      cases outcome with
      | error fault =>
        obtain ⟨rfl, same⟩ := rest.of_done
        cases same
        rw [List.append_nil]
        exact ⟨_, .aborted (.none _ report) (Nat.succ_pos _) pending delivered⟩
      | ok u =>
        obtain ⟨stop, halted⟩ := ih rest
        exact ⟨stop, halted.cons pending delivered⟩

/-- Waves that were run to their ends are followed by those that remain. -/
theorem Waved.follows (h : Waved n k report cs m report') (remaining : Nat) :
    Follows cs (k.waves (n + remaining) report) (m.waves remaining report') := by
  induction h with
  | none k report =>
    rw [Nat.zero_add]
    exact .refl _
  | next due delivered _ ih =>
    rw [Nat.succ_add, waves_succ _ _ due]
    exact (delivered.bind _).trans ih

/-- Waves that have come to their end for some reason were followed to this end. -/
theorem Halted.follows (h : Halted remaining k report cs stop result k') :
    Follows cs (k.waves remaining report) (.done result k') := by
  cases h with
  | @exhausted n cs m report' waved within nothing =>
    have run := waved.follows (remaining - n)
    rwa [Nat.add_sub_cancel' within, waves_of_nothing _ _ nothing] at run
  | limit waved due =>
    have run := waved.follows 0
    rwa [Nat.add_zero, waves_zero _ due] at run
  | @aborted n cs ds m m' report' tally fault waved room due broken =>
    have run := waved.follows (remaining - n)
    obtain ⟨left, more⟩ : ∃ left, remaining - n = left + 1 := ⟨remaining - n - 1, by omega⟩
    rw [Nat.add_sub_cancel' (Nat.le_of_lt room), more, waves_succ _ _ due] at run
    exact run.trans (broken.bind _)

/-- A drain has come to its end for some reason, with an outcome and a kernel. -/
def Stops (k : Kernel κ) (cs : List (Choice κ)) (stop : Stop)
    (outcome : Except Fault DrainReport) (k' : Kernel κ) : Prop :=
  ∃ result report m, Halted k.settings.waveLimit k.beginDrain (.startingAt k.generation) cs stop
    (result, report) m ∧ outcome = result.map (fun _ => report) ∧ k' = m.endDrain result report

variable {outcome : Except Fault DrainReport}

/-- A drain ends at once if nothing is due. -/
theorem drain_of_nothing (idle : k.schedule.draining = false)
    (nothing : k.schedule.pending.isEmpty = true) :
    k.drain = .done (.ok (.startingAt k.generation)) k := by
  unfold drain
  rw [if_neg (by simp [idle]), if_pos nothing]

/-- A drain of what is due consists of waves. -/
theorem drain_of_due (idle : k.schedule.draining = false)
    (due : k.schedule.pending.isEmpty = false) : k.drain =
      (k.beginDrain.waves k.settings.waveLimit (.startingAt k.generation)).bind fun r m =>
        .done (r.1.map fun _ => r.2) (m.endDrain r.1 r.2) := by
  unfold drain
  rw [if_neg (by simp [idle]), if_neg (by simp [due])]

/-- A drain of what is due comes to an end if it stops for some reason. -/
theorem follows_drain_iff (idle : k.schedule.draining = false)
    (due : k.schedule.pending.isEmpty = false) :
    Follows cs k.drain (.done outcome k') ↔ ∃ stop, k.Stops cs stop outcome k' := by
  rw [drain_of_due idle due]
  constructor
  · intro h
    obtain ⟨before, after, ⟨result, report⟩, m, rfl, waves, rest⟩ := h.of_bind
    obtain ⟨rfl, same⟩ := rest.of_done
    cases same
    obtain ⟨stop, halted⟩ := halted_of_follows waves
    rw [List.append_nil]
    exact ⟨stop, result, report, m, halted, rfl, rfl⟩
  · rintro ⟨stop, result, report, m, halted, rfl, rfl⟩
    exact halted.follows.bind _

end Kernel

end ReactiveKernel
