import ReactiveKernel.Proofs.Drain.Grammar
import ReactiveKernel.Proofs.Drain.Result
import ReactiveKernel.Proofs.DrainOutcome

/-!
# What an overrun tells

A drain announces its end once, and says whether it has overrun. It has if something was due when
all waves of the limit had been run to their ends, and then the drain returns the error that says
so. A callback that aborts a drain has its error returned as it is, whatever the error is.
-/

namespace ReactiveKernel

variable {κ : Type}

/-- The end of a drain that an event announces: the generation, the number of waves, and whether the
drain has overrun. -/
def TraceEvent.finish? : TraceEvent → Option (Nat × Nat × Bool)
  | .drainFinished generation waves overrun => some (generation, waves, overrun)
  | _ => none

/-- No drain ends within a wave. -/
theorem Wave.finish_events (g : Nat) (w : Wave) :
    (w.events g).filterMap TraceEvent.finish? = [] := by
  refine List.filterMap_eq_nil_iff.mpr fun e he => ?_
  obtain ⟨id, _, rfl⟩ := List.mem_map.mp he
  rfl

/-- No drain ends within waves. -/
theorem Wave.finish_eventsAfter (g : Nat) (waves : List Wave) :
    (Wave.eventsAfter g waves).filterMap TraceEvent.finish? = [] := by
  induction waves generalizing g with
  | nil => rfl
  | cons w rest ih =>
    rw [Wave.eventsAfter, List.filterMap_append, w.finish_events, List.nil_append]
    exact ih (g + 1)

/-- A block announces one end. -/
theorem Block.finish_events (b : Block) :
    b.events.filterMap TraceEvent.finish? = [(b.generation + b.count, b.count, b.overrun)] := by
  have last : (b.unfinished.toList.flatMap (Wave.events (b.generation + b.count))).filterMap
      TraceEvent.finish? = [] := by
    cases b.unfinished with
    | none => rfl
    | some w => simpa using Wave.finish_events _ w
  have started : (.drainStarted b.generation b.due.length ::
      Wave.eventsAfter b.generation b.waves).filterMap TraceEvent.finish? = [] :=
    Wave.finish_eventsAfter b.generation b.waves
  rw [Block.events, Block.opening, List.filterMap_append, List.filterMap_append, last, started]
  rfl

/-- A finish is announced by an event of a drain. -/
theorem TraceEvent.finish_of_drain (e : TraceEvent) :
    (if e.isOfDrain then e.finish? else none) = e.finish? := by
  cases e <;> rfl

namespace Kernel

open Activity

variable {k k' : Kernel κ} {cs : List (Choice κ)} {outcome : Except Fault DrainReport}

/-- The ends of drains that were announced. -/
def finishes (k : Kernel κ) : List (Nat × Nat × Bool) := k.told.filterMap TraceEvent.finish?

/-- The ends of drains are announced in their course. -/
theorem finishes_eq_course (k : Kernel κ) :
    k.finishes = (announcements k.course).filterMap TraceEvent.finish? := by
  rw [← told_course, List.filterMap_filter, finishes]
  exact List.filterMap_congr fun e _ => (e.finish_of_drain).symm

/-- A drain announces one end. -/
theorem AddsBlock.finishes {b : Block} (h : k.AddsBlock b outcome k') :
    k'.finishes = k.finishes ++ [(b.generation + b.count, b.count, b.overrun)] := by
  rw [finishes_eq_course, finishes_eq_course, h.course, announcements_append,
    Block.announcements_entries, List.filterMap_append, Block.finish_events]

/-- A drain that finds something due, and comes to an end, announces one end. It is said to have
overrun just if something was due when all waves of the limit had been run to their ends, unless a
callback has aborted it by an error that is itself an overrun. It returns an overrun in just these
two cases. A callback aborts a drain only if failures are to do so, and then its error is returned
as it is. -/
theorem overrun_tells_limit (reachable : k.Reachable) (idle : k.schedule.draining = false)
    (due : k.schedule.pending.isEmpty = false) (run : Follows cs k.drain (.done outcome k')) :
    ∃ generation waves overrun, k'.finishes = k.finishes ++ [(generation, waves, overrun)] ∧
      (∃ stop, k.Stops cs stop outcome k') ∧ ∀ stop, k.Stops cs stop outcome k' →
        ((∀ fault, stop = .aborted fault → fault.isCycleOverrun = false) →
          (overrun = true ↔ stop = .limit)) ∧
        ((∃ fault, outcome = .error fault ∧ fault.isCycleOverrun = true) ↔
          stop = .limit ∨ ∃ fault, stop = .aborted fault ∧ fault.isCycleOverrun = true) ∧
        ∀ fault, stop = .aborted fault →
          k.settings.onFailure = .abort ∧ outcome = .error fault := by
  have starts : k.opening? = some (k.generation, k.schedule.pending.size) := by
    simp [opening?, idle, due]
  obtain ⟨b, adds⟩ := reachable.addsBlock starts run.steps
  refine ⟨_, _, b.overrun, adds.finishes, (follows_drain_iff idle due).mp run, ?_⟩
  intro stop stops
  obtain ⟨succeeds, overruns, aborts⟩ := stops.returns reachable.blocks.1
  have returned : (∃ fault, outcome = .error fault ∧ fault.isCycleOverrun = true) ↔
      stop = .limit ∨ ∃ fault, stop = .aborted fault ∧ fault.isCycleOverrun = true := by
    cases stop with
    | exhausted =>
      obtain ⟨report, rfl⟩ := succeeds rfl
      simp
    | limit =>
      obtain ⟨n, rfl⟩ := overruns rfl
      simp [Fault.isCycleOverrun]
    | aborted fault =>
      obtain ⟨rfl, _⟩ := aborts fault rfl
      simp
  refine ⟨fun genuine => ?_, returned, fun fault aborted => (aborts fault aborted).symm⟩
  rw [adds.overrun, returned]
  constructor
  · rintro (limit | ⟨fault, aborted, overrun⟩)
    · exact limit
    · rw [genuine fault aborted] at overrun
      cases overrun
  · exact .inl

/-- A drain that runs into the limit of two waves has stopped there. -/
theorem overrun_tells_limit_endless :
    endless.Reachable ∧ endless.schedule.draining = false ∧
    endless.schedule.pending.isEmpty = false ∧ ∃ cs k',
      Follows cs endless.drain (.done (.error (.cycleOverrun 2 1)) k') ∧
      k'.finishes = [(2, 2, true)] ∧ endless.Stops cs .limit (.error (.cycleOverrun 2 1)) k' := by
  have reachable : endless.Reachable := reachable_performAll _ _ _ _
  have idle : endless.schedule.draining = false := rfl
  have due : endless.schedule.pending.isEmpty = false := by decide +kernel
  obtain ⟨k', steps, finishes⟩ := restless.exists_steps 2 .drain endless finishes
    (r := .error (.cycleOverrun 2 1)) (x := [(2, 2, true)]) rfl
  obtain ⟨cs, run⟩ := steps.follows
  obtain ⟨_, _, overrun, _, ⟨stop, stops⟩, means⟩ := overrun_tells_limit reachable idle due run
  refine ⟨reachable, idle, due, cs, k', run, finishes, ?_⟩
  obtain ⟨_, returned, aborts⟩ := means stop stops
  obtain limit | ⟨fault, aborted, _⟩ := returned.mp ⟨_, rfl, rfl⟩
  · exact limit ▸ stops
  · have log : endless.settings.onFailure = .log := rfl
    rw [(aborts fault aborted).1] at log
    cases log

/-- A host whose code fails with an overrun that it has from elsewhere. -/
def blaming : Host Unit where
  behave _ _ := .pure (.error (.cycleOverrun 7 0))

/-- A datum that watches itself has changed, where failures are to abort drains. -/
def blamed : Kernel Unit :=
  (Kernel.create ((Settings.standard.withWaveLimit 2).withOnFailure .abort) .empty).performAll
    .ascending [.createDatum "Cell" [] none, .subscribe (.datum ⟨0⟩) (.datum ⟨0⟩) .everything (),
      .set (.datum ⟨0⟩) "value" (.bool true)]

/-- A drain that was aborted in its first wave is said to have overrun, since that is the error that
the callback has returned. The limit was not reached. -/
theorem overrun_without_limit :
    blamed.Reachable ∧ blamed.schedule.draining = false ∧
    blamed.schedule.pending.isEmpty = false ∧ blamed.settings.waveLimit = 2 ∧
    blamed.finishes = [] ∧ ∃ cs k',
      Follows cs blamed.drain (.done (.error (.cycleOverrun 7 0)) k') ∧
      k'.finishes = [(1, 1, true)] ∧
      ∀ stop, blamed.Stops cs stop (.error (.cycleOverrun 7 0)) k' → stop ≠ .limit := by
  have reachable : blamed.Reachable := reachable_performAll _ _ _ _
  obtain ⟨k', steps, finishes⟩ := blaming.exists_steps 2 .drain blamed finishes
    (r := .error (.cycleOverrun 7 0)) (x := [(1, 1, true)]) rfl
  obtain ⟨cs, run⟩ := steps.follows
  refine ⟨reachable, rfl, by decide +kernel, rfl, rfl, cs, k', run, finishes, ?_⟩
  intro stop stops limit
  obtain ⟨due, overran⟩ := (stops.returns reachable.blocks.1).2.1 limit
  cases overran

end Kernel

end ReactiveKernel
