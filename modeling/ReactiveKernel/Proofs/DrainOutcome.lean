import Mathlib.Algebra.GroupWithZero.Nat
import ReactiveKernel.Proofs.Drain.Delivery
import ReactiveKernel.Proofs.Drain.Stop
import ReactiveKernel.Proofs.Run.Completion

/-!
# How drains end

A drain comes to its end exactly if every callback does that it starts. Then it has run at most as
many waves as the limit says, leaves nothing pending, and reports what the journal tells. It fails
only if a callback fails and is to abort it, or if something is pending when the limit is reached.
-/

namespace ReactiveKernel

variable {κ : Type}

/-- Quiet entries leave a ledger as it is. -/
theorem Ledger.record_quiet {o : Occurrence κ} (quiet : o.isQuiet = true) (l : Ledger) :
    l.record o = l := by
  cases o with
  | logged e => cases e <;> first | rfl | cases quiet
  | _ => first | rfl | cases quiet

/-- Quiet entries neither change the ledger nor what is due. -/
theorem due_filter (entries : List (Occurrence κ)) :
    Ledger.of (entries.filter fun o => !o.isQuiet) = Ledger.of entries ∧
      ∀ id, Due (entries.filter fun o => !o.isQuiet) id ↔ Due entries id := by
  induction entries using List.reverseRecOn with
  | nil => exact ⟨rfl, fun _ => Iff.rfl⟩
  | append_singleton entries o ih =>
    obtain ⟨same, due⟩ := ih
    cases quiet : o.isQuiet with
    | true =>
      have dropped : ((entries ++ [o]).filter fun o => !o.isQuiet) =
          entries.filter fun o => !o.isQuiet := by simp [quiet]
      have silent (id : SubscriptionId) : ¬ (Ledger.of entries).Calls o id := by
        refine Ledger.not_calls ?_ id
        intro e eq
        rw [eq] at quiet
        cases quiet
      have inside : o.isBoundary = false := by
        cases o <;> first | rfl | cases quiet
      rw [dropped, Ledger.of_snoc, Ledger.record_quiet quiet]
      refine ⟨same, fun id => ?_⟩
      rw [Due.snoc, due]
      simp [silent id, inside]
    | false =>
      have kept : ((entries ++ [o]).filter fun o => !o.isQuiet) =
          (entries.filter fun o => !o.isQuiet) ++ [o] := by simp [quiet]
      rw [kept, Ledger.of_snoc, Ledger.of_snoc, same]
      exact ⟨rfl, fun id => by rw [Due.snoc, Due.snoc, same, due]⟩

/-- What is due by the journal is pending. -/
theorem Kernel.Recorded.pending_iff {k : Kernel κ} (recorded : k.Recorded) (id : SubscriptionId) :
    id ∈ k.schedule.pending ↔ Due k.journal.toList id :=
  (recorded.due id).trans ((due_filter k.journal.toList).2 id)

namespace Kernel

open Contract

/-- What the report of some waves tells, given the report before them. -/
structure Tells (k : Kernel κ) (report : DrainReport) (span : List (Occurrence κ))
    (report' : DrainReport) (k' : Kernel κ) : Prop where
  /-- The start of the drain is not touched. -/
  start : report'.startGeneration = report.startGeneration
  /-- The generation at the end. -/
  finish : report'.endGeneration = k'.generation
  /-- Waves were counted. -/
  waves : report'.waves = report.waves + (taken span).length
  /-- Callbacks were counted. -/
  callbacks : report'.callbacksRun = report.callbacksRun + (starts span).length
  /-- Skipped subscriptions were counted. -/
  stale : report'.staleSkipped = report.staleSkipped + (skips span).length
  /-- Failures were counted. -/
  failed : report'.callbackFailures = report.callbackFailures + (failures span).length
  /-- All members of all waves had their turns. -/
  whole : turns span = (taken span).flatMap (·.2)
  /-- There was no failure that was to abort the drain. -/
  unfailed : k.settings.onFailure = .abort → failures span = []
  /-- Nothing is due. -/
  exhausted : ∀ id, ¬ Due k'.journal.toList id

/-- Why some waves came to an early end, and what the journal tells of it. -/
inductive Fails (k : Kernel κ) (remaining : Nat) (span : List (Occurrence κ)) : Fault → Prop
  /-- A callback failed and aborted the drain. -/
  | aborted {fault : Fault} (policy : k.settings.onFailure = .abort) (aborts : Aborts span fault) :
    Fails k remaining span fault
  /-- All waves that remained were run to their ends, and then something was due. -/
  | overrun {before after : List (Occurrence κ)} {g : Nat} {due : List SubscriptionId}
    (split : span = before ++
      .logged (.cycleOverrun k.settings.waveLimit due.length g) :: after)
    (waves : (taken before).length = remaining)
    (whole : turns before = (taken before).flatMap (·.2))
    (quiet : taken after = [] ∧ starts after = []) (nodup : due.Nodup)
    (mem_due : ∀ id, id ∈ due ↔ Due (k.journal.toList ++ before) id) (some_due : 1 ≤ due.length) :
    Fails k remaining span (.cycleOverrun k.settings.waveLimit due.length)

/-- What some waves come to. -/
structure Cascade (k : Kernel κ) (remaining : Nat) (report : DrainReport)
    (span : List (Occurrence κ)) (result : Except Fault Unit × DrainReport) (k' : Kernel κ) :
    Prop where
  /-- The entries that were written. -/
  journal : k'.journal.toList = k.journal.toList ++ span
  /-- The settings are the same. -/
  settings : k'.settings = k.settings
  /-- Every wave opened a generation. -/
  generation : k'.generation = k.generation + (taken span).length
  /-- No more waves were run than remained. -/
  limit : (taken span).length ≤ remaining
  /-- The report of waves that came to their end. -/
  tells : result.1 = .ok () → k.Tells report span result.2 k'
  /-- Why they did not. -/
  fails : ∀ fault, result.1 = .error fault → k.Fails remaining span fault

variable {k k₁ k' : Kernel κ} {g : Nat}

/-- The waves are over since nothing is pending. -/
theorem InWave.exhausted (inWave : k.InWave g []) (empty : k.schedule.pending.isEmpty = true)
    (remaining : Nat) {report : DrainReport} (now : report.endGeneration = k.generation) :
    k.Cascade remaining report [] (.ok (), report) k := by
  refine ⟨by simp, rfl, rfl, Nat.zero_le _, fun _ => ?_, by simp⟩
  refine ⟨rfl, now, rfl, rfl, rfl, rfl, rfl, fun _ => rfl, fun id due => ?_⟩
  exact SubscriptionSet.isEmpty_iff.mp empty id ((inWave.recorded.pending_iff id).mpr due)

/-- The waves are over since none remains. -/
theorem InWave.overruns (inWave : k.InWave g []) (empty : k.schedule.pending.isEmpty = false)
    (report : DrainReport) : ∃ span,
      k.Cascade 0 report span (.error k.overrun.1, report) k.overrun.2 := by
  let due := k.schedule.pending.toList
  have size : due.length = k.schedule.pending.size := Std.ExtTreeSet.length_toList
  have some_due : 1 ≤ due.length := by
    have nonempty : k.schedule.pending.size ≠ 0 := by
      intro zero
      rw [Std.ExtTreeSet.isEmpty_eq_size_beq_zero, zero] at empty
      cases empty
    omega
  have nodup : due.Nodup := by
    have ordered : due.Pairwise fun a b => compare a b = .lt := Std.ExtTreeSet.ordered_toList
    refine ordered.imp ?_
    intro a b less same
    rw [same] at less
    exact Nat.lt_irrefl _ (Nat.compare_eq_lt.mp less)
  have entry : k.overrun.2.journal.toList = k.journal.toList ++
      [.logged (.cycleOverrun k.settings.waveLimit due.length k.generation)] := by
    rw [size]
    exact journal_note _ _
  have mem_due (id : SubscriptionId) : id ∈ due ↔ Due (k.journal.toList ++ []) id := by
    rw [List.append_nil, ← inWave.recorded.pending_iff id]
    exact Std.ExtTreeSet.mem_toList
  have fault : k.overrun.1 = .cycleOverrun k.settings.waveLimit due.length := by
    rw [size]
    rfl
  refine ⟨_, entry, rfl, rfl, Nat.le_refl _, by simp, ?_⟩
  intro other error
  cases error
  rw [fault]
  exact .overrun (List.nil_append _).symm rfl rfl ⟨rfl, rfl⟩ nodup mem_due some_due

section

variable {wave : List SubscriptionId} {span more announced : List (Occurrence κ)}
  {tally : WaveTally} {report : DrainReport} {m : Kernel κ}

/-- The entries of a wave, from the moment when it is taken. -/
def waveSpan (k : Kernel κ) (span : List (Occurrence κ)) : List (Occurrence κ) :=
  [.waveTaken (k.generation + 1) k.schedule.pending.toList] ++ span

/-- The entries of a wave tell of one wave: that one. -/
theorem taken_waveSpan (none_taken : taken span = []) :
    taken (k.waveSpan span) = [(k.generation + 1, k.schedule.pending.toList)] := by
  rw [waveSpan, taken_append, none_taken]
  rfl

/-- The turns in the entries of a wave are those after it was taken. -/
theorem turns_waveSpan : turns (k.waveSpan span) = turns span := by
  rw [waveSpan, turns_append]
  rfl

/-- The starts in the entries of a wave are those after it was taken. -/
theorem starts_waveSpan : starts (k.waveSpan span) = starts span := by
  rw [waveSpan, starts_append]
  rfl

/-- The skips in the entries of a wave are those after it was taken. -/
theorem skips_waveSpan : skips (k.waveSpan span) = skips span := by
  rw [waveSpan, skips_append]
  rfl

/-- The failures in the entries of a wave are those after it was taken. -/
theorem failures_waveSpan : failures (k.waveSpan span) = failures span := by
  rw [waveSpan, failures_append]
  rfl

/-- When a wave is taken, the entries of the wave begin. -/
theorem journal_takeWave (k : Kernel κ) :
    k.takeWave.2.journal.toList = k.journal.toList ++ k.waveSpan [] :=
  journal_note _ _

/-- A wave was aborted. -/
theorem Delivery.cascade_aborted {fault : Fault}
    (delivery : k.takeWave.2.Delivery wave ⟨0, 0, 0⟩ span (.error fault, tally) m)
    (remaining : Nat) (report report' : DrainReport) :
    k.Cascade (remaining + 1) report (k.waveSpan span) (.error fault, report') m := by
  have one : (taken (k.waveSpan span)).length = 1 := by
    rw [taken_waveSpan delivery.no_wave]
    rfl
  refine ⟨?_, delivery.settings, ?_, ?_, by simp, ?_⟩
  · rw [delivery.journal, journal_takeWave, List.append_assoc]
    rfl
  · rw [one]
    exact delivery.generation
  · rw [one]
    exact Nat.le_add_left _ _
  · intro other error
    cases error
    obtain ⟨policy, aborts⟩ := delivery.aborted fault rfl
    exact .aborted policy (aborts.prepend rfl)

/-- The entries of a wave that was delivered. -/
structure Whole (k : Kernel κ) (head : List (Occurrence κ)) (tally : WaveTally) : Prop where
  /-- The wave was taken. -/
  taken : taken head = [(k.generation + 1, k.schedule.pending.toList)]
  /-- All its members had their turns. -/
  turns : turns head = k.schedule.pending.toList
  /-- Callbacks were counted. -/
  callbacks : tally.callbacks = (starts head).length
  /-- Skipped subscriptions were counted. -/
  stale : tally.stale = (skips head).length
  /-- Failures were counted. -/
  failed : tally.failures = (failures head).length
  /-- There was no failure that was to abort the drain. -/
  unfailed : k.settings.onFailure = .abort → failures head = []

/-- A wave that was delivered is whole, with what is announced after it. -/
theorem Delivery.whole
    (delivery : k.takeWave.2.Delivery k.schedule.pending.toList ⟨0, 0, 0⟩ span (.ok (), tally) m)
    (idle : Idle announced) : k.Whole (k.waveSpan span ++ announced) tally := by
  obtain ⟨all, unfailed⟩ := delivery.delivered rfl
  refine ⟨?_, ?_, ?_, ?_, ?_, fun policy => ?_⟩
  · rw [taken_append, taken_waveSpan delivery.no_wave, idle.taken, List.append_nil]
  · rw [turns_append, turns_waveSpan, idle.turns, List.append_nil, all]
  · rw [starts_append, starts_waveSpan, idle.starts, List.append_nil, delivery.callbacks,
      Nat.zero_add]
  · rw [skips_append, skips_waveSpan, idle.skips, List.append_nil, delivery.stale, Nat.zero_add]
  · rw [failures_append, failures_waveSpan, idle.failures, List.append_nil, delivery.failed,
      Nat.zero_add]
  · rw [failures_append, failures_waveSpan, idle.failures, List.append_nil, unfailed policy]

/-- A wave was delivered, and the report of all waves tells of it and of the others. -/
theorem Tells.cons {head : List (Occurrence κ)} {report' : DrainReport}
    (tells : k₁.Tells ((report.openWave (k.generation + 1)).closeWave tally) more report' k')
    (whole : k.Whole head tally) (settings : k₁.settings = k.settings) :
    k.Tells report (head ++ more) report' k' := by
  refine ⟨tells.start, tells.finish, ?_, ?_, ?_, ?_, ?_, fun policy => ?_, tells.exhausted⟩
  · rw [tells.waves, taken_append, whole.taken, List.length_append, ← Nat.add_assoc]
    rfl
  · rw [tells.callbacks, starts_append, List.length_append, ← whole.callbacks, ← Nat.add_assoc]
    rfl
  · rw [tells.stale, skips_append, List.length_append, ← whole.stale, ← Nat.add_assoc]
    rfl
  · rw [tells.failed, failures_append, List.length_append, ← whole.failed, ← Nat.add_assoc]
    rfl
  · rw [turns_append, taken_append, List.flatMap_append, whole.turns, whole.taken, tells.whole]
    simp
  · rw [failures_append, whole.unfailed policy, tells.unfailed (settings ▸ policy)]
    rfl

/-- A wave was delivered, and the others failed. -/
theorem Fails.cons {head : List (Occurrence κ)} {remaining : Nat} {fault : Fault}
    (fails : k₁.Fails remaining more fault) (whole : k.Whole head tally)
    (journal : k₁.journal.toList = k.journal.toList ++ head)
    (settings : k₁.settings = k.settings) : k.Fails (remaining + 1) (head ++ more) fault := by
  cases fails with
  | aborted policy aborts =>
    have here : k.settings.onFailure = .abort := settings ▸ policy
    exact .aborted here (aborts.prepend (whole.unfailed here))
  | @overrun before after g due split waves turned quiet nodup mem_due some_due =>
    rw [settings] at split ⊢
    have later : head ++ more = head ++ before ++
        .logged (.cycleOverrun k.settings.waveLimit due.length g) :: after := by
      rw [split, List.append_assoc]
    refine .overrun later ?_ ?_ quiet nodup ?_ some_due
    · rw [taken_append, whole.taken, List.length_append, waves, Nat.add_comm]
      rfl
    · rw [turns_append, taken_append, List.flatMap_append, whole.turns, whole.taken, turned]
      simp
    · intro id
      rw [mem_due, journal, List.append_assoc]

/-- A wave was delivered, and then came others. -/
theorem Cascade.cons {head : List (Occurrence κ)} {remaining : Nat}
    {result : Except Fault Unit × DrainReport}
    (rest : k₁.Cascade remaining ((report.openWave (k.generation + 1)).closeWave tally) more result
      k') (whole : k.Whole head tally) (journal : k₁.journal.toList = k.journal.toList ++ head)
    (settings : k₁.settings = k.settings) (generation : k₁.generation = k.generation + 1) :
    k.Cascade (remaining + 1) report (head ++ more) result k' := by
  have count : (taken (head ++ more)).length = 1 + (taken more).length := by
    rw [taken_append, whole.taken, List.length_append]
    rfl
  refine ⟨?_, rest.settings.trans settings, ?_, ?_, ?_, ?_⟩
  · rw [rest.journal, journal, List.append_assoc]
  · rw [rest.generation, generation, count, Nat.add_assoc]
  · have limit := rest.limit
    omega
  · intro ok
    exact (rest.tells ok).cons whole settings
  · intro fault error
    exact (rest.fails fault error).cons whole journal settings

end

/-- What the waves of a drain have come to when they have ended. -/
theorem cascade_of_steps {remaining : Nat} {report : DrainReport}
    {result : Except Fault Unit × DrainReport} (inWave : k.InWave g [])
    (now : report.endGeneration = k.generation)
    (steps : Activity.Steps (k.waves remaining report) (.done result k')) :
    ∃ span, k.Cascade remaining report span result k' := by
  induction remaining generalizing report g k with
  | zero =>
    cases pending : k.schedule.pending.isEmpty with
    | true =>
      rw [waves_of_nothing 0 report pending] at steps
      obtain ⟨rfl, rfl⟩ := steps.of_done
      exact ⟨[], inWave.exhausted pending 0 now⟩
    | false =>
      rw [waves_zero report pending] at steps
      obtain ⟨rfl, rfl⟩ := steps.of_done
      exact inWave.overruns pending report
  | succ remaining ih =>
    cases pending : k.schedule.pending.isEmpty with
    | true =>
      rw [waves_of_nothing _ report pending] at steps
      obtain ⟨rfl, rfl⟩ := steps.of_done
      exact ⟨[], inWave.exhausted pending _ now⟩
    | false =>
      have wave := inWave.takeWave
      have next : k.takeWave.2.generation = g + 1 := wave.generation
      have here : k.generation = g := inWave.generation
      rw [waves_succ remaining report pending, nextWave, next] at steps
      obtain ⟨⟨outcome, tally⟩, m, delivers, steps⟩ := steps.of_bind
      obtain ⟨span, delivery⟩ := delivery_of_steps wave delivers
      have delivered := (recording_sound.steps (recording_deliver _ _ wave) delivers).2
      cases outcome with
      | error fault =>
        obtain ⟨rfl, rfl⟩ := steps.of_done
        exact ⟨_, delivery.cascade_aborted remaining report _⟩
      | ok u =>
        have drained := InWave.drained delivered tally.callbacks
        have counted : k.countWave report tally =
            (report.openWave (g + 1)).closeWave tally := by rw [countWave, next]
        have concluded : k.concludeWave m tally =
            m.emit (.generationDrained (g + 1) tally.callbacks) := by rw [concludeWave, next]
        have goes_on : k.goOn remaining report (.ok u, tally) m =
            (m.emit (.generationDrained (g + 1) tally.callbacks)).waves remaining
              ((report.openWave (g + 1)).closeWave tally) := by rw [goOn, counted, concluded]
        rw [goes_on] at steps
        obtain ⟨more, cascade⟩ := ih drained drained.generation.symm steps
        have idle := (m.silent_announcement (.generationDrained (g + 1) tally.callbacks)).idle
        let head := k.waveSpan span ++ m.announcement (.generationDrained (g + 1) tally.callbacks)
        refine ⟨head ++ more, ?_⟩
        rw [← here] at cascade
        refine cascade.cons (delivery.whole (here ▸ idle)) ?_ delivery.settings delivery.generation
        rw [here, journal_emit, delivery.journal, journal_takeWave]
        simp [head, waveSpan]

/-- What holds after every drain. -/
structure Concludes (k : Kernel κ) (span : List (Occurrence κ)) (k' : Kernel κ) : Prop where
  /-- The entries that were written. -/
  journal : k'.journal.toList = k.journal.toList ++ span
  /-- Nothing is pending. -/
  pending : ∀ id, id ∉ k'.schedule.pending
  /-- No drain is running. -/
  idle : k'.schedule.draining = false
  /-- Every wave opened a generation. -/
  generation : k'.generation = k.generation + (taken span).length
  /-- There were no more waves than the limit says. -/
  limit : (taken span).length ≤ k.settings.waveLimit

/-- What a drain reports is what the journal tells. -/
structure Reports (k : Kernel κ) (span : List (Occurrence κ)) (report : DrainReport) : Prop where
  /-- The generation at the start. -/
  start : report.startGeneration = k.generation
  /-- The generation at the end. -/
  finish : report.endGeneration = report.startGeneration + report.waves
  /-- The waves that were run. -/
  waves : report.waves = (taken span).length
  /-- The callbacks that were started. -/
  callbacks : report.callbacksRun = (starts span).length
  /-- The subscriptions that were skipped. -/
  stale : report.staleSkipped = (skips span).length
  /-- All members of all waves were started or skipped. -/
  handled : report.callbacksRun + report.staleSkipped = ((taken span).map (·.2.length)).sum
  /-- The callbacks that failed. -/
  failed : report.callbackFailures = (failures span).length
  /-- No callback failed if that was to abort the drain. -/
  unfailed : k.settings.onFailure = .abort → report.callbackFailures = 0
  /-- Nothing was due at the start, or else at the end. -/
  exhausted : span = [] ∧ (∀ id, ¬ Due k.journal.toList id) ∨
    ∃ before g waves overrun after,
      span = before ++ .announced (.drainFinished g waves overrun) :: after ∧
        ∀ id, ¬ Due (k.journal.toList ++ before) id

section

variable {m : Kernel κ} {head inner tail span : List (Occurrence κ)}

/-- The failure of the waves is that of the drain. -/
theorem Fails.wrap {remaining : Nat} {fault : Fault} (fails : k₁.Fails remaining inner fault)
    (before : Idle head) (after : Idle tail)
    (journal : k₁.journal.toList = k.journal.toList ++ head)
    (settings : k₁.settings = k.settings) : k.Fails remaining (head ++ inner ++ tail) fault := by
  cases fails with
  | aborted policy aborts =>
    exact .aborted (settings ▸ policy) ((aborts.prepend before.failures).append after.starts)
  | @overrun ahead behind g due split waves turned quiet nodup mem_due some_due =>
    rw [settings] at split ⊢
    have wrapped : head ++ inner ++ tail = head ++ ahead ++
        .logged (.cycleOverrun k.settings.waveLimit due.length g) :: (behind ++ tail) := by
      rw [split]
      simp
    refine .overrun wrapped ?_ ?_ ⟨?_, ?_⟩ nodup ?_ some_due
    · rw [taken_append, before.taken, List.nil_append, waves]
    · rw [turns_append, taken_append, before.turns, before.taken, List.nil_append,
        List.nil_append, turned]
    · rw [taken_append, quiet.1, after.taken, List.append_nil]
    · rw [starts_append, quiet.2, after.starts, List.append_nil]
    · intro id
      rw [mem_due, journal, List.append_assoc]

/-- The report of the waves is that of the drain. -/
theorem Tells.reports {report : DrainReport} {finish waves : Nat} {overrun : Bool}
    {after : List (Occurrence κ)}
    (tells : k₁.Tells (.startingAt k.generation) inner report m) (before : Idle head)
    (ending : Idle tail) (last : tail = .announced (.drainFinished finish waves overrun) :: after)
    (journal : m.journal.toList = k.journal.toList ++ (head ++ inner))
    (settings : k₁.settings = k.settings)
    (generation : m.generation = k.generation + (taken inner).length) :
    k.Reports (head ++ inner ++ tail) report := by
  obtain ⟨took, _, started, skipped, failing⟩ := counts_around before ending inner
  have start : report.startGeneration = k.generation := tells.start
  have counted : report.waves = (taken inner).length := tells.waves.trans (Nat.zero_add _)
  have callbacks : report.callbacksRun = (starts inner).length :=
    tells.callbacks.trans (Nat.zero_add _)
  have stale : report.staleSkipped = (skips inner).length := tells.stale.trans (Nat.zero_add _)
  have failed : report.callbackFailures = (failures inner).length :=
    tells.failed.trans (Nat.zero_add _)
  refine ⟨start, ?_, took ▸ counted, started ▸ callbacks, skipped ▸ stale, ?_, failing ▸ failed,
    fun policy => ?_, .inr ⟨head ++ inner, finish, waves, overrun, after, last ▸ rfl, fun id => ?_⟩⟩
  · rw [tells.finish, generation, start, counted]
  · rw [took, callbacks, stale, ← length_turns, tells.whole, List.length_flatMap]
  · rw [failed, tells.unfailed (settings ▸ policy)]
    rfl
  · rw [← journal]
    exact tells.exhausted id

end

/-- The beginning of a drain adds entries that tell of no wave and of no callback. -/
theorem journal_beginDrain (k : Kernel κ) : ∃ head, Idle head ∧
    k.beginDrain.journal.toList = k.journal.toList ++ head := by
  have announced := k.silent_announcement (.drainStarted k.generation k.schedule.pending.size)
  exact ⟨_, announced.idle, journal_emit k _⟩

/-- The end of a drain adds its announcement, and no entries that tell of a wave or of a callback.
-/
theorem journal_endDrain (k : Kernel κ) (outcome : Except Fault Unit) (report : DrainReport) :
    ∃ overrun after tail, Idle tail ∧
      tail = .announced (.drainFinished report.endGeneration report.waves overrun) :: after ∧
      (k.endDrain outcome report).journal.toList = k.journal.toList ++ tail := by
  obtain ⟨overrun, same⟩ : ∃ overrun, k.endDrain outcome report =
      ((k.mapState fun s => { s with schedule := { s.schedule with draining := false } }).emit
        (.drainFinished report.endGeneration report.waves overrun)).log
        (.drainEnded report overrun) := ⟨_, rfl⟩
  have announced := k.silent_announcement
    (.drainFinished report.endGeneration report.waves overrun)
  have logged : Idle [(.logged (.drainEnded report overrun) : Occurrence κ)] :=
    ⟨rfl, rfl, rfl, rfl, rfl⟩
  refine ⟨overrun, _, _, announced.idle.append logged, rfl, ?_⟩
  rw [same, log, journal_note, journal_emit, List.append_assoc]
  rfl

/-- What a drain of a kernel has come to when it has ended. -/
def Concluded (k : Kernel κ) (outcome : Except Fault DrainReport) (k' : Kernel κ) : Prop :=
  ∃ span, k.Concludes span k' ∧ (∀ report, outcome = .ok report → k.Reports span report) ∧
    ∀ fault, outcome = .error fault → k.Fails k.settings.waveLimit span fault

/-- A drain that has ended was concluded, whatever its callbacks do. -/
theorem concluded_of_steps {outcome : Except Fault DrainReport} (recorded : k.Recorded)
    (idle : k.schedule.draining = false)
    (steps : Activity.Steps k.drain (.done outcome k')) : k.Concluded outcome k' := by
  cases pending : k.schedule.pending.isEmpty with
  | true =>
    rw [drain_of_nothing idle pending] at steps
    obtain ⟨rfl, rfl⟩ := steps.of_done
    have nothing := SubscriptionSet.isEmpty_iff.mp pending
    refine ⟨[], ⟨by simp, nothing, idle, rfl, Nat.zero_le _⟩, ?_, by simp⟩
    intro report ok
    cases ok
    refine ⟨rfl, rfl, rfl, rfl, rfl, rfl, rfl, fun _ => rfl, .inl ⟨rfl, fun id due => ?_⟩⟩
    exact nothing id ((recorded.pending_iff id).mpr due)
  | false =>
    have begun := recorded.beginDrain idle
    obtain ⟨head, before, begin⟩ := k.journal_beginDrain
    rw [drain_of_due idle pending] at steps
    obtain ⟨⟨result, report⟩, m, waves, steps⟩ := steps.of_bind
    obtain ⟨rfl, rfl⟩ := steps.of_done
    obtain ⟨inner, cascade⟩ := cascade_of_steps begun rfl waves
    have ending : m.Ending := (recording_sound.steps (recording_waves _ _ begun) waves).2
    obtain ⟨overrun, rest, tail, after, last, finish⟩ := m.journal_endDrain result report
    obtain ⟨took, _⟩ := counts_around before after inner
    have journal : m.journal.toList = k.journal.toList ++ (head ++ inner) := by
      rw [cascade.journal, begin, List.append_assoc]
    refine ⟨head ++ inner ++ tail, ⟨?_, ending.pending, rfl, ?_, ?_⟩, ?_, ?_⟩
    · rw [finish, journal, List.append_assoc]
    · rw [took]
      exact cascade.generation
    · rw [took]
      exact cascade.limit
    · intro report' ok
      cases result with
      | error fault => cases ok
      | ok u =>
        cases ok
        exact (cascade.tells rfl).reports before after last journal rfl cascade.generation
    · intro fault error
      cases result with
      | ok u => cases error
      | error fault =>
        cases error
        exact (cascade.fails _ rfl).wrap before after begin rfl

/-- A host brings a drain to its end if the call for it returns, at every depth that is great
enough. -/
theorem ends_drain_iff {h : Host κ} : (∃ outcome k', h.Ends k.drain outcome k') ↔
    ∃ depth outcome k', ∀ deeper, depth ≤ deeper →
      (h.engine deeper).call .drain k = some (outcome, k') := by
  constructor
  · rintro ⟨outcome, k', ends⟩
    obtain ⟨depth, returns⟩ := Host.Ends.call (c := .drain) ends
    exact ⟨depth, outcome, k', returns⟩
  · rintro ⟨depth, outcome, k', returns⟩
    exact ⟨outcome, k', depth, returns (depth + 1) (Nat.le_succ depth)⟩

/-- A drain of a reachable kernel comes to its end exactly if every callback does that it starts,
where it starts it: as a call of a host, with the same result whenever calls may nest deeply enough,
and in every scripted run. However a drain has come to its end, it leaves nothing pending and
reports what the journal tells, or it fails since a callback aborted it, or since something was due
after as many waves as the limit says. -/
theorem drain_outcome (reachable : k.Reachable) (idle : k.schedule.draining = false) :
    (∀ h : Host κ, h.Completes k.drain ↔ ∃ depth outcome k', ∀ deeper, depth ≤ deeper →
      (h.engine deeper).call .drain k = some (outcome, k')) ∧
    (∀ s : Script κ, s.Completes k.drain ↔
      ∃ n outcome k', k.drain.after s n = .done outcome k') ∧
    ∀ outcome k', Activity.Steps k.drain (.done outcome k') → k.Concluded outcome k' := by
  refine ⟨fun h => ?_, fun s => ?_, fun outcome k' steps => ?_⟩
  · exact (Host.completes_iff (Activity.notifies_drain k)).trans ends_drain_iff
  · exact Activity.completes_iff (Activity.notifies_drain k) s
  · exact concluded_of_steps reachable.recorded idle steps

/-- A host whose code always adds an item to the first datum. -/
def restless : Host Unit where
  behave _ _ := .command (.pushItem ⟨0⟩ .null) fun _ => .pure (.ok ())

/-- A collection whose changes call code that changes it, with a limit of two waves. -/
def endless : Kernel Unit :=
  (Kernel.create (Settings.standard.withWaveLimit 2) .empty).performAll .ascending
    [.createCollection "Log" [] none, .subscribe (.datum ⟨0⟩) (.datum ⟨0⟩) .everything ()]

/-- A host whose code makes an instance of a template first. -/
def sprawling : Host Unit where
  behave _ _ := .command (.register "Row" .empty) fun _ =>
    .call (.instantiate "Row" none []) fun _ =>
      .command (.pushItem ⟨0⟩ .null) fun _ => .pure (.ok ())

/-- All callbacks that the drain starts come to their ends, and it gives up after two waves, with
the one subscription due again. -/
theorem drain_outcome_endless : endless.Reachable ∧ endless.schedule.draining = false ∧
    sprawling.Completes endless.drain ∧
    ∃ k' span, (sprawling.engine 4).call .drain endless = some (.error (.cycleOverrun 2 1), k') ∧
      endless.Concludes span k' ∧ endless.Fails 2 span (.cycleOverrun 2 1) := by
  have reachable : endless.Reachable := reachable_performAll _ _ _ _
  have idle : endless.schedule.draining = false := by decide
  obtain ⟨hosted, _, concluded⟩ := drain_outcome reachable idle
  obtain ⟨k', called⟩ : ∃ k', (sprawling.engine 4).call .drain endless =
      some (.error (.cycleOverrun 2 1), k') := ⟨_, rfl⟩
  have deeper (depth : Nat) (le : 4 ≤ depth) : (sprawling.engine depth).call .drain endless =
      some (.error (.cycleOverrun 2 1), k') :=
    (sprawling.engine_extends le).call _ _ _ called
  have steps : Activity.Steps endless.drain (.done (.error (.cycleOverrun 2 1)) k') :=
    (sprawling.follows 3).activity called
  obtain ⟨span, concludes, _, fails⟩ := concluded _ k' steps
  exact ⟨reachable, idle, (hosted sprawling).mpr ⟨4, _, k', deeper⟩, k', span, called, concludes,
    fails _ rfl⟩

end Kernel

end ReactiveKernel
