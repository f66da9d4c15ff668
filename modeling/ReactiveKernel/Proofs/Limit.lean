import ReactiveKernel.Proofs.DrainOutcome
import ReactiveKernel.Proofs.Limit.Waves

/-!
# Raising the limit of waves

The limit of waves only stops a drain. With a higher limit, a drain that came to its end before the
limit does the same, and one that was stopped by the limit goes on with a further wave after it has
run the same waves.
-/

namespace ReactiveKernel

variable {κ : Type}

namespace Kernel

open Activity

variable {limit : Nat} {k m : Kernel κ} {report : DrainReport} {cs : List (Choice κ)}
  {outcome : Except Fault DrainReport}

/-- By these choices, a drain runs all waves of its limit to their ends, and something is due. -/
def SpendsLimit (k : Kernel κ) (cs : List (Choice κ)) (m : Kernel κ) (report : DrainReport) :
    Prop :=
  Waved k.settings.waveLimit k.beginDrain (.startingAt k.generation) cs m report ∧
    m.schedule.pending.isEmpty = false

/-- A drain that spends its limit has found something due. -/
theorem SpendsLimit.due (h : k.SpendsLimit cs m report) :
    k.schedule.pending.isEmpty = false :=
  h.1.due h.2

/-- A drain starts in the same way under another limit. -/
theorem apart_beginDrain (limit : Nat) (consistent : k.toState.Consistent) :
    LimitApart limit k.generation k.beginDrain (k.beginDrain.withLimit limit) :=
  ⟨rfl, rfl, rfl, (Contract.consistency_drainStable.beginDrain consistent).holds⟩

/-- A drain that spends its limit returns the error that says so. -/
theorem SpendsLimit.overruns (h : k.SpendsLimit cs m report)
    (idle : k.schedule.draining = false) (consistent : k.toState.Consistent) :
    Follows cs k.drain (.done
      (.error (.cycleOverrun k.settings.waveLimit m.schedule.pending.size))
      (m.overrun.2.endDrain (.error m.overrun.1) report)) := by
  have begun := (Contract.consistency_drainStable.beginDrain consistent).holds
  have settings : m.settings = k.settings := (h.1.settings begun).2
  rw [← settings]
  exact (follows_drain_iff idle h.due).mpr ⟨.limit, _, report, _, .limit h.1 h.2, rfl, rfl⟩

/-- A drain that comes to its end without spending its limit does the same with a higher one. -/
theorem follows_drain_withLimit (idle : k.schedule.draining = false)
    (consistent : k.toState.Consistent) (le : k.settings.waveLimit ≤ limit)
    (blind : ∀ c ∈ cs, c.IgnoresLimit) (run : Follows cs k.drain (.done outcome m))
    (spared : ¬∃ m report, k.SpendsLimit cs m report) :
    Follows cs (k.withLimit limit).drain (.done outcome (m.withLimit limit)) := by
  cases due : k.schedule.pending.isEmpty with
  | true =>
    rw [drain_of_nothing idle due] at run
    obtain ⟨rfl, same⟩ := run.of_done
    cases same
    rw [drain_of_nothing (k := k.withLimit limit) idle due]
    exact .refl _
  | false =>
    obtain ⟨stop, result, report, m', halted, rfl, rfl⟩ := (follows_drain_iff idle due).mp run
    have before : stop ≠ .limit := by
      rintro rfl
      cases halted with
      | limit waved still => exact spared ⟨_, _, waved, still⟩
    have halted' := halted.withLimit (apart_beginDrain limit consistent) blind le before
    exact (follows_drain_iff (k := k.withLimit limit) idle due).mpr
      ⟨stop, result, report, _, halted', rfl, rfl⟩

/-- A drain that spends its limit runs the same waves to their ends with a higher one, and takes one
more wave then. -/
theorem SpendsLimit.further (h : k.SpendsLimit cs m report)
    (idle : k.schedule.draining = false) (consistent : k.toState.Consistent)
    (lt : k.settings.waveLimit < limit) (blind : ∀ c ∈ cs, c.IgnoresLimit) :
    Waved k.settings.waveLimit (k.withLimit limit).beginDrain (.startingAt k.generation) cs
        (m.withLimit limit) report ∧
      ∃ a, Follows cs (k.withLimit limit).drain a ∧
        k.generation + k.settings.waveLimit + 1 ≤ a.kernel.generation := by
  obtain ⟨more, hl⟩ : ∃ more, k.settings.waveLimit + (more + 1) = limit :=
    ⟨limit - k.settings.waveLimit - 1, by omega⟩
  obtain ⟨waved, apart⟩ := h.1.withLimit blind (apart_beginDrain limit consistent)
  refine ⟨waved, ?_⟩
  have followed := waved.follows (more + 1)
  rw [hl] at followed
  rw [drain_of_due (k := k.withLimit limit) idle h.due]
  refine ⟨_, followed.bind _, ?_⟩
  rw [← apart.generation]
  have taken := generation_waves_succ (k := m.withLimit limit) more report h.2
  exact Nat.le_trans taken (le_generation_bind fun _ _ => Nat.le_refl _)

/-- Before its end, a drain is at the same point as one with a higher limit. -/
theorem follows_drain_ongoing {a : Activity κ (Except Fault DrainReport)}
    (idle : k.schedule.draining = false) (consistent : k.toState.Consistent)
    (le : k.settings.waveLimit ≤ limit) (blind : ∀ c ∈ cs, c.IgnoresLimit)
    (run : Follows cs k.drain a) (ongoing : a.Ongoing) :
    ∃ a', Follows cs (k.withLimit limit).drain a' ∧
      a.Abreast (fun m m' => m' = m.withLimit limit) a' := by
  cases due : k.schedule.pending.isEmpty with
  | true =>
    rw [drain_of_nothing idle due] at run
    exact (ongoing.not_done run).elim
  | false =>
    rw [drain_of_due idle due] at run
    rcases run.of_bind_cases with ⟨b, within, rfl, still⟩ | ⟨_, _, _, _, _, _, rest⟩
    · obtain ⟨b', within', abreast⟩ :=
        follows_waves within still (apart_beginDrain limit consistent) blind le
      rw [drain_of_due (k := k.withLimit limit) idle due]
      exact ⟨_, within'.bind _, still.abreast_bind abreast⟩
    · exact (ongoing.not_done rest).elim

/-- A consistent state is consistent under another limit. -/
theorem consistent_withLimit (consistent : k.toState.Consistent) (limit : Nat) :
    (k.withLimit limit).toState.Consistent := by
  have same : k.toState.SameLinks (k.withLimit limit).toState :=
    ⟨rfl, rfl, fun _ => rfl, fun _ => rfl⟩
  exact same.consistent consistent consistent.issued.pending

/-- The limit of waves only stops a drain. The drains of a kernel under two limits are compared,
with the same choices of host code and of walks, which do not look at the limit. A drain that comes
to its end without spending the lower limit comes to the same end under the higher one, with the
same result and the same kernel, records included. One that spends the lower limit overruns there;
under the higher limit the same waves are run to their ends, and one more is taken. Wherever the
drain has come to before its end under the lower limit, it is at the same point under the higher
one, with the same kernel but for the limit. -/
theorem limit_only_stops (reachable : k.Reachable) (idle : k.schedule.draining = false)
    {lower higher : Nat} (le : lower ≤ higher) (blind : ∀ c ∈ cs, c.IgnoresLimit) :
    (∀ outcome m, Follows cs (k.withLimit lower).drain (.done outcome m) →
      (¬∃ m report, (k.withLimit lower).SpendsLimit cs m report) →
        Follows cs (k.withLimit higher).drain (.done outcome (m.withLimit higher))) ∧
    (∀ m report, (k.withLimit lower).SpendsLimit cs m report →
      (∃ due m', Follows cs (k.withLimit lower).drain
        (.done (.error (.cycleOverrun lower due)) m')) ∧
      (lower < higher →
        Waved lower (k.withLimit higher).beginDrain (.startingAt k.generation) cs
          (m.withLimit higher) report ∧
        ∃ a, Follows cs (k.withLimit higher).drain a ∧
          k.generation + lower + 1 ≤ a.kernel.generation)) ∧
    ∀ a, Follows cs (k.withLimit lower).drain a → a.Ongoing →
      ∃ a', Follows cs (k.withLimit higher).drain a' ∧
        a.Abreast (fun m m' => m' = m.withLimit higher) a' := by
  have consistent := consistent_withLimit reachable.consistent lower
  refine ⟨fun outcome m run spared => ?_, fun m report spends => ⟨?_, fun lt => ?_⟩,
    fun a run ongoing => ?_⟩
  · exact follows_drain_withLimit (k := k.withLimit lower) idle consistent le blind run spared
  · exact ⟨_, _, spends.overruns idle consistent⟩
  · exact spends.further idle consistent lt blind
  · exact follows_drain_ongoing (k := k.withLimit lower) idle consistent le blind run ongoing

/-- The callback of a wave does nothing. -/
def calm : List (Choice Unit) := [.start (.pure (.ok ())), .proceed]

/-- The callback of a wave adds an item to the first datum. -/
def busy : List (Choice Unit) := [.start (restless.behave () .invoked), .walk .ascending, .proceed]

/-- With a calm callback, the limit of one wave is enough, and a limit of two makes no difference.
With a busy one, the limit of one wave is spent, and under a limit of two another wave is taken. -/
theorem limit_only_stops_endless :
    endless.Reachable ∧ endless.schedule.draining = false ∧
    (∃ r m, Follows calm (endless.withLimit 1).drain (.done (.ok r) m) ∧ r.waves = 1 ∧
      Follows calm (endless.withLimit 2).drain (.done (.ok r) (m.withLimit 2))) ∧
    ∃ m report, (endless.withLimit 1).SpendsLimit busy m report ∧
      ∃ a, Follows busy (endless.withLimit 2).drain a ∧
        endless.generation + 1 + 1 ≤ a.kernel.generation := by
  have reachable : endless.Reachable := reachable_performAll _ _ _ _
  have idle : endless.schedule.draining = false := rfl
  have le : 1 ≤ 2 := by decide
  have blindCalm : ∀ c ∈ calm, c.IgnoresLimit := by
    simp [calm, Choice.IgnoresLimit, Program.IgnoresLimit]
  have blindBusy : ∀ c ∈ busy, c.IgnoresLimit := by
    simp [busy, restless, Choice.IgnoresLimit, Program.IgnoresLimit,
      EdgeOrder.ascending_ignoresLimit]
  obtain ⟨r, m, run, once⟩ :
      ∃ r m, Follows calm (endless.withLimit 1).drain (.done (.ok r) m) ∧ r.waves = 1 :=
    ⟨_, _, .step (.start ..) (.step (.finish ..) (.refl _)), rfl⟩
  have spared : ¬∃ m report, (endless.withLimit 1).SpendsLimit calm m report := by
    rintro ⟨m', report, spends⟩
    have overruns := spends.overruns idle (consistent_withLimit reachable.consistent 1)
    cases run.deterministic overruns
  obtain ⟨m', report, spends⟩ : ∃ m report, (endless.withLimit 1).SpendsLimit busy m report := by
    have due : (endless.withLimit 1).beginDrain.schedule.pending.isEmpty = false := by
      decide +kernel
    obtain ⟨tally, m, wave, still⟩ : ∃ tally m, Follows busy
        (endless.withLimit 1).beginDrain.nextWave (.done (.ok (), tally) m) ∧
          m.schedule.pending.isEmpty = false :=
      ⟨_, _, .step (.start ..) (.step (.command ..) (.step (.finish ..) (.refl _))),
        by decide +kernel⟩
    exact ⟨_, _, .next due wave (.none _ _), still⟩
  obtain ⟨same, _, _⟩ := limit_only_stops reachable idle le blindCalm
  obtain ⟨_, overrun, _⟩ := limit_only_stops reachable idle le blindBusy
  obtain ⟨_, further⟩ := overrun m' report spends
  exact ⟨reachable, idle, ⟨r, m, run, once, same _ m run spared⟩, m', report, spends,
    (further (by decide)).2⟩

end Kernel

end ReactiveKernel
