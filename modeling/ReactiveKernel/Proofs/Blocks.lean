import ReactiveKernel.Proofs.Drain.Grammar
import ReactiveKernel.Proofs.Replay

/-!
# What drains announce is made of blocks

In a run whose trace goes to a recording from the start, the recorded events of drains form blocks
that do not overlap and are not nested, one for each drain that was called when something was due
and no drain was running. Each block has the waves of its drain in order, and its counts are those
that the drain reports. Other calls of a drain add nothing.
-/

namespace ReactiveKernel

variable {κ α β : Type}

namespace Wave

/-- The subscriptions that were skipped since they were gone. -/
def skipped (w : Wave) : List SubscriptionId :=
  (w.turns.filter fun t => !t.notified).map Turn.subscription

variable {w : Wave}

/-- The callbacks of a wave are notified in ascending order. -/
theorem WellFormed.notified_ascending (h : w.WellFormed) :
    w.notified.Pairwise fun a b => a.raw < b.raw := by
  have turns := h.ascending
  rw [h.order] at turns
  exact (List.pairwise_append.mp turns).1.sublist (List.filter_sublist.map _)

/-- Every member of a wave was notified, was skipped or was dropped. -/
theorem WellFormed.length_members (h : w.WellFormed) :
    w.members.length = w.notified.length + w.skipped.length + w.dropped.length := by
  have turns : w.turns.length = w.notified.length + w.skipped.length := by
    rw [notified, skipped, List.length_map, List.length_map]
    exact List.length_eq_length_filter_add _
  rw [h.order, List.length_append, List.length_map, turns]

end Wave

namespace Block

/-- A block that a drain can announce whose waves are limited, and what its counts mean. -/
structure Orderly (b : Block) (limit : Nat) : Prop extends b.Fits limit where
  /-- In each wave, callbacks were notified in ascending order. -/
  ascending : ∀ w ∈ b.allWaves, w.notified.Pairwise fun a b => a.raw < b.raw
  /-- What was due was notified, skipped or dropped in the first wave. -/
  handled : ∀ w, b.allWaves.head? = some w →
    b.due.length = w.notified.length + w.skipped.length + w.dropped.length

variable {b : Block} {limit : Nat}

/-- In a fitting block the counts mean what they say. -/
theorem Fits.orderly (h : b.Fits limit) : b.Orderly limit where
  toFits := h
  ascending w hw := (h.wellFormed.waves w hw).notified_ascending
  handled w first := by
    rw [← h.wellFormed.first w first]
    exact (h.wellFormed.waves w (List.mem_of_mem_head? first)).length_members

/-- The events of blocks in a row are the events of each of them. -/
theorem announcements_blocks (blocks : List Block) :
    announcements (blocks.flatMap entries : List (Occurrence κ)) = blocks.flatMap events := by
  induction blocks with
  | nil => rfl
  | cons b rest ih => rw [List.flatMap_cons, announcements_append, announcements_entries, ih,
      List.flatMap_cons]

end Block

/-- Host code may ask for anything. -/
def Scope.free (κ : Type) : Scope κ := ⟨fun _ _ => True, fun _ _ => True, fun _ _ => True⟩

namespace Activity

/-- The drain that the next step starts, if it starts one. -/
def opening? : Activity κ α → Option (Nat × Nat)
  | .host (.call .drain _) k _ => k.opening?
  | .call .drain k _ => k.opening?
  | _ => none

/-- Some steps of a run within a scope, and the drains that they started, in this order. -/
inductive Drains (S : Scope κ) : Activity κ α → List (Nat × Nat) → Activity κ α → Prop
  /-- No step. -/
  | refl (a : Activity κ α) : Drains S a [] a
  /-- One more step, which starts a drain if it calls one that is to be started. -/
  | tail {a b c : Activity κ α} {ds : List (Nat × Nat)} : Drains S a ds b → b.Heeds S → Step b c →
    Drains S a (ds ++ b.opening?.toList) c

variable {S : Scope κ} {a b c : Activity κ α} {ds ds' : List (Nat × Nat)}

/-- Everything heeds the scope in which host code may ask for anything. -/
theorem heeds_free (a : Activity κ α) : a.Heeds (.free κ) := by
  cases a with
  | host p k next => cases p <;> trivial
  | _ => trivial

/-- Steps that start some drains are steps within their scope. -/
theorem Drains.within (h : Drains S a ds b) : StepsWithin S a b := by
  induction h with
  | refl => exact .refl
  | tail _ heeds step ih => exact ih.tail ⟨heeds, step⟩

/-- Whatever the scope, the same drains are started if host code may ask for anything. -/
theorem Drains.free (h : Drains S a ds b) : Drains (.free κ) a ds b := by
  induction h with
  | refl => exact .refl _
  | tail _ _ step ih => exact ih.tail (heeds_free _) step

theorem Drains.trans (h : Drains S a ds b) (h' : Drains S b ds' c) : Drains S a (ds ++ ds') c := by
  induction h' with
  | refl => rwa [List.append_nil]
  | tail _ heeds step ih =>
    rw [← List.append_assoc]
    exact ih.tail heeds step

/-- All steps have started some drains. -/
theorem Steps.drains (h : Steps a b) : ∃ ds, Drains (.free κ) a ds b := by
  induction h with
  | refl => exact ⟨[], .refl a⟩
  | tail _ step ih =>
    obtain ⟨ds, drains⟩ := ih
    exact ⟨_, drains.tail (heeds_free _) step⟩

/-- Commands start no drain. -/
theorem drains_commands (free : ∀ c k, S.command c k) (order : EdgeOrder κ)
    (cs : List (Command κ)) (f : Except Fault Unit → Program κ (Except Fault Unit)) (k : Kernel κ)
    (next : Except Fault Unit → Kernel κ → Activity κ α) :
    Drains S (.host ((Program.commands cs).bind f) k next) []
      (.host (f (.ok ())) (k.performAll order cs) next) := by
  induction cs generalizing k with
  | nil => exact .refl _
  | cons c cs ih =>
    have first : Drains S (.host ((Program.commands (c :: cs)).bind f) k next) []
        (.host ((Program.commands cs).bind f) (c.perform order k).2 next) :=
      (Drains.refl _).tail (free c k) (.command order c _ k next)
    exact first.trans (ih (c.perform order k).2)

open Kernel Contract

variable {P : List (Nat × Nat) → Prop} {fits : α → Kernel κ → Prop} {k₀ : Kernel κ}
  {x : Nat × Nat}

/-- What is called next keeps a condition if the drain that is started, if any, does. -/
theorem callsOnly_keeps (keeps : ∀ x, a.opening? = some x → P (openings a.kernel.course ++ [x])) :
    a.CallsOnly (Call.Keeps P) := by
  cases a with
  | done x k | react code occasion k next => trivial
  | call c k next =>
    rintro rfl x starts
    exact keeps x starts
  | host p k next =>
    cases p with
    | call c f =>
      rintro rfl x starts
      exact keeps x starts
    | _ => trivial

/-- A drain that starts adds a block. -/
theorem keeps_drain {k : Kernel κ} (holds : (blocks κ P).holds k) (opens : k.opening? = some x)
    (admitted : P (openings k.course ++ [x])) : k.drain.Keeps (blocks κ P)
      (fun outcome k' => (blocks κ P).Passes k k' ∧ ∃ b, k.AddsBlock b outcome k')
      k.beginDrain := by
  obtain ⟨idle, due, rfl⟩ := opening_eq_some opens
  exact blocks_drain_due holds idle due admitted

/-- The start of a drain stays announced. -/
theorem prefix_openings {k k' : Kernel κ} (opens : k.opening? = some x)
    (leads : (blocks κ P).leads k.beginDrain k') :
    openings k.course ++ [x] <+: openings k'.course := by
  obtain ⟨_, _, rfl⟩ := opening_eq_some opens
  have size : k.openBlock.due.length = k.schedule.pending.size := Std.ExtTreeSet.length_toList
  have first : openings (k.course ++ k.openBlock.opened) =
      openings k.course ++ [(k.generation, k.schedule.pending.size)] := by
    rw [openings_append, Block.openings_opened, size]
    rfl
  have course := leads.1
  rw [course_beginDrain] at course
  exact first ▸ course.filterMap Occurrence.opening?

/-- The start of a drain is announced by the step that starts it. -/
theorem Keeps.opens (keeps : a.Keeps (blocks κ P) fits k₀) (starts : a.opening? = some x)
    (admitted : P (openings a.kernel.course ++ [x])) (step : Step a b) :
    openings a.kernel.course ++ [x] <+: openings b.kernel.course := by
  cases step with
  | request order c f k next =>
    cases c with
    | drain =>
      have kept : (k.drain.bind fun reply k => .host (f reply) k next).Keeps (blocks κ P) fits
          k.beginDrain := by
        refine .bind blocks_ordered ((keeps_drain keeps.2.1 starts admitted).mono
          fun reply k' done => ?_)
        exact ⟨blocks_ordered.refl k', done.1.holds, fun r k'' back =>
          keeps.2.2 r k'' (blocks_ordered.passes_trans done.1 back)⟩
      exact prefix_openings starts kept.leads_kernel
    | _ => cases starts
  | call order c k next =>
    cases c with
    | drain =>
      have kept : (k.drain.bind next).Keeps (blocks κ P) fits k.beginDrain :=
        .bind blocks_ordered ((keeps_drain keeps.2.1 starts admitted).mono fun reply k' done =>
          keeps.2.2 reply k' done.1)
      exact prefix_openings starts kept.leads_kernel
    | _ => cases starts
  | _ => cases starts

/-- The drains whose start is announced are those that were started. -/
theorem Drains.openings {begin a : Activity κ (Except Fault Unit)} (starts : Starts begin)
    (h : Drains S begin ds a) : openings a.kernel.course = ds ∧
      ∀ l, ds <+: l → StepsCalling (Call.Keeps (· <+: l)) begin a := by
  induction h with
  | refl =>
    obtain ⟨settings, templates, p, rfl⟩ := starts
    exact ⟨rfl, fun _ _ => .refl⟩
  | @tail b c ds earlier heeds step ih =>
    obtain ⟨opened, calling⟩ := ih
    have calling' (l : List (Nat × Nat)) (le : ds ++ b.opening?.toList <+: l) :
        StepsCalling (Call.Keeps (· <+: l)) begin c := by
      refine (calling l ((List.prefix_append _ _).trans le)).tail ⟨callsOnly_keeps ?_, step⟩
      intro x opens
      rw [opened]
      rwa [opens] at le
    refine ⟨?_, calling'⟩
    let l := ds ++ b.opening?.toList
    have sound : (blocks κ (· <+: l)).SoundFor (Call.Keeps (· <+: l)) := blocks_soundFor
    have fresh := blocks_create (κ := κ) (P := (· <+: l)) List.nil_prefix
    have before : b.Keeps (blocks κ (· <+: l)) _ begin.kernel :=
      sound.steps (sound.starts fresh starts) (calling l (List.prefix_append _ _))
    have after := (sound.visited fresh starts (calling' l List.prefix_rfl)).1
    have upper : ReactiveKernel.openings c.kernel.course <+: l := after.2.2
    have lower : l <+: ReactiveKernel.openings c.kernel.course := by
      cases opens : b.opening? with
      | none =>
        have led := (sound.step before (callsOnly_keeps (by simp [opens])) step).leads_kernel
        have grown := led.1.filterMap Occurrence.opening?
        have same : l = ReactiveKernel.openings b.kernel.course := by simp [l, opens, opened]
        exact same ▸ grown
      | some x =>
        have same : l = ReactiveKernel.openings b.kernel.course ++ [x] := by simp [l, opens, opened]
        rw [same]
        exact before.opens opens (same ▸ List.prefix_rfl) step
    exact upper.eq_of_length_le lower.length_le

end Activity

namespace Kernel

open Activity Contract

variable {k m : Kernel κ} {i : Nat}

/-- The events of drains in a recording. -/
def recordedDrains (k : Kernel κ) (i : Nat) : List TraceEvent :=
  (k.tracer.events i).filter TraceEvent.isOfDrain

/-- The events of drains in a faithful recording are what the course of the drains announces. -/
theorem recordedDrains_eq (records : k.tracer.Records i k.told) :
    k.recordedDrains i = announcements k.course := by
  rw [recordedDrains, records.events_eq, told_course]

/-- The recorded events of drains are those of blocks, and of one that is open while a drain is
running. -/
structure ToldInBlocks (k : Kernel κ) (i : Nat) (blocks : List Block) (last : Option Block) :
    Prop where
  /-- All blocks are in order. -/
  orderly : ∀ b ∈ blocks ++ last.toList, b.Orderly k.settings.waveLimit
  /-- Their events were recorded. -/
  told : k.recordedDrains i = blocks.flatMap Block.events ++ last.toList.flatMap Block.opening
  /-- One of them is open exactly while a drain is running. -/
  running : k.schedule.draining = last.isSome

/-- What is in blocks is told in blocks by a faithful recording. -/
theorem InBlocks.told {blocks : List Block} {last : Option Block} (h : k.InBlocks blocks last)
    (records : k.tracer.Records i k.told) : k.ToldInBlocks i blocks last where
  orderly b hb := (h.fits b hb).orderly
  told := by
    rw [recordedDrains_eq records, h.course, announcements_append, Block.announcements_blocks]
    cases last with
    | none => rfl
    | some b =>
      have opened := b.announcements_opened (κ := κ)
      simpa using opened
  running := h.running

/-- The block that a drain has added to a recording. -/
structure TellsBlock (k : Kernel κ) (i : Nat) (b : Block) (outcome : Except Fault DrainReport)
    (m : Kernel κ) : Prop where
  /-- The block is in order. -/
  orderly : b.Orderly k.settings.waveLimit
  /-- The generation when the drain started. -/
  generation : b.generation = k.generation
  /-- What was due then. -/
  due : b.due = k.schedule.pending.toList
  /-- The events come after those of earlier drains. -/
  told : m.recordedDrains i = k.recordedDrains i ++ b.events
  /-- What is reported of the waves, if all of them were delivered to their ends. -/
  reported : ∀ report, outcome = .ok report →
    b.unfinished = none ∧ report.waves = b.count ∧ report.callbacksRun = b.callbacks
  /-- A wave that was not delivered to its end was aborted by a callback, and its fault is the
  outcome. -/
  broken : ∀ w, b.unfinished = some w → ∃ fault report m', outcome = .error fault ∧
    Breaks w fault m' ∧ m = m'.endDrain (.error fault) report

/-- A drain that adds a block has a faithful recording tell of it. -/
theorem AddsBlock.tells {b : Block} {outcome : Except Fault DrainReport}
    (h : k.AddsBlock b outcome m) (before : k.tracer.Records i k.told)
    (after : m.tracer.Records i m.told) : k.TellsBlock i b outcome m := by
  obtain ⟨result, m', report, halts, reported, rfl, rfl⟩ := h.halts
  refine ⟨h.fits.orderly, h.generation, h.due, ?_, ?_, ?_⟩
  · rw [recordedDrains_eq after, recordedDrains_eq before, h.course, announcements_append,
      Block.announcements_entries]
  · intro report' ok
    cases halts with
    | exhausted whole nothing =>
      cases ok
      exact ⟨whole, reported.waves, reported.callbacks⟩
    | overran whole count pending => cases ok
    | aborted last breaks => cases ok
  · intro w last
    cases halts with
    | exhausted whole nothing =>
      rw [whole] at last
      cases last
    | overran whole count pending =>
      rw [whole] at last
      cases last
    | aborted last' breaks =>
      rw [last'] at last
      cases last
      exact ⟨_, report, m', rfl, breaks, rfl⟩

/-- Nothing was announced, so no drain was started. -/
theorem openings_of_untold (untold : k.told = []) : openings k.course = [] := by
  refine List.filterMap_eq_nil_iff.mpr fun o ho => ?_
  have silent : announcements k.course = [] := by
    rw [← told_course, untold]
    rfl
  have unannounced := List.filterMap_eq_nil_iff.mp silent o ho
  cases o with
  | announced e => cases unannounced
  | _ => rfl

variable {begin a : Activity κ (Except Fault Unit)} {p : Program κ (Except Fault Unit)}
  {ds : List (Nat × Nat)}

/-- A drain keeps a recording that was in use. -/
theorem records_drain {outcome : Except Fault DrainReport} (consistent : k.toState.Consistent)
    (records : k.tracer.Records i k.told)
    (run : StepsWithin (.recorded κ i) k.drain (.done outcome m)) :
    m.tracer.Records i m.told := by
  have free (k k' : Kernel κ) (holds : (Contract.recorded κ i).holds k') :
      (Contract.recorded κ i).Passes k k' := ⟨holds, trivial, trivial⟩
  have safe : k.drain.Safe (Contract.recorded κ i) k :=
    recorded_drainStable.drain ⟨consistent, records⟩
  have ended : (Contract.recorded κ i).Passes k m := recorded_kept.steps (safe.obeys free) run
  exact ended.holds.2

/-- The drains whose blocks were announced are those that were started. -/
theorem Installed.drains (starts : Starts begin) (steps : Steps begin (.host p k .done))
    (installed : k.Installed i) (run : Drains (.recorded κ i) (.host p k .done) ds a) :
    openings a.kernel.course = ds := by
  obtain ⟨earlier, before⟩ := steps.drains
  have none : earlier = [] := by
    have opened := (before.openings starts).1
    exact opened.symm.trans (openings_of_untold installed.untold)
  have all := ((before.trans run.free).openings starts).1
  rwa [none] at all

/-- In a run whose trace goes to a recording from the start, the recorded events of drains are those
of blocks, one for each drain that was called when something was due and no drain was running, in
this order, and the last one is open while its drain is running. Wherever the run has come to, a
drain that finds nothing due or another drain running changes nothing. Any other one adds a block,
which has the counts that it reports. Only the last wave of a block may lack the report of its end,
and then the drain was aborted by a callback, whose error it returns. -/
theorem drains_told_in_blocks (starts : Starts begin) (steps : Steps begin (.host p k .done))
    (installed : k.Installed i) (run : Drains (.recorded κ i) (.host p k .done) ds a) :
    (∃ blocks last, a.kernel.ToldInBlocks i blocks last ∧
      (blocks ++ last.toList).map (fun b => (b.generation, b.due.length)) = ds) ∧
    ∀ outcome m, StepsWithin (.recorded κ i) a.kernel.drain (.done outcome m) →
      (a.kernel.opening? = none → m = a.kernel) ∧
      ∀ x, a.kernel.opening? = some x → ∃ b, a.kernel.TellsBlock i b outcome m := by
  have records := Installed.records_told starts steps installed run.within
  have holds := (blocks_sound.visited (blocks_create trivial) starts
    (steps.trans run.within.steps)).1
  obtain ⟨consistent, ⟨blocks, last, inBlocks⟩, _⟩ := holds
  refine ⟨⟨blocks, last, inBlocks.told records, ?_⟩, fun outcome m drained => ⟨?_, ?_⟩⟩
  · rw [← installed.drains starts steps run, inBlocks.course, openings_append,
      Block.openings_blocks, List.map_append]
    cases last with
    | none => rfl
    | some b =>
      have opened := b.openings_opened (κ := κ)
      simp [opened]
  · intro refused
    obtain ⟨answer, same⟩ := drain_of_opening_none refused
    have ended := drained.steps
    rw [same] at ended
    exact (Steps.of_done ended).2.symm
  · intro x opens
    obtain ⟨idle, due, rfl⟩ := opening_eq_some opens
    have drains := blocks_drain_due (P := fun _ => True)
      ⟨consistent, ⟨blocks, last, inBlocks⟩, trivial⟩ idle due trivial
    obtain ⟨b, adds⟩ := (blocks_sound.steps drains drained.steps).2.2
    exact ⟨b, adds.tells records (records_drain consistent records drained)⟩

/-- The commands that make a datum that watches itself. -/
def selfWatching : List (Command Unit) :=
  [.createDatum "Cell" [] none, .subscribe (.datum ⟨0⟩) (.datum ⟨0⟩) .everything ()]

/-- A datum is made that watches itself, and what is due is drained. -/
def drainsOnce : Program Unit (Except Fault Unit) :=
  (Program.commands selfWatching).bind fun _ => .call .drain fun _ => .pure (.ok ())

/-- A block is open when the callback of the datum is due, and it is closed when the drain has
ended. -/
theorem drains_told_in_blocks_selfWatching :
    let k := recorded.performAll .ascending selfWatching
    let drains := k.drain.bind fun _ k => .host (.pure (.ok ())) k .done
    recorded.Installed 0 ∧ drains.kernel.recordedDrains 0 = [.drainStarted 0 1, .notified ⟨0⟩ 1] ∧
    (∃ b, drains.kernel.ToldInBlocks 0 [] (some b) ∧ b.generation = 0 ∧ b.due.length = 1) ∧
    ∃ report m b, StepsWithin (.recorded Unit 0) k.drain (.done (.ok report) m) ∧
      m.recordedDrains 0 = [.drainStarted 0 1, .notified ⟨0⟩ 1, .generationDrained 1 1,
        .drainFinished 1 1 false] ∧
      k.TellsBlock 0 b (.ok report) m := by
  intro k drains
  let begin : Activity Unit (Except Fault Unit) :=
    .host (.probe .newRecording fun _ => .probe (.install (.recording 0)) fun _ => drainsOnce)
      (Kernel.create .standard .empty) .done
  have starts : Starts begin := ⟨.standard, .empty, _, rfl⟩
  have steps : Steps begin (.host drainsOnce recorded .done) :=
    .tail (.single (.probe .newRecording _ _ _)) (.probe (.install (.recording 0)) _ _ _)
  have installed : recorded.Installed 0 := ⟨⟨rfl, rfl⟩, rfl⟩
  have called : Drains (.recorded Unit 0) (.host drainsOnce recorded .done) []
      (.host (.call .drain fun _ => .pure (.ok ())) k .done) :=
    drains_commands (fun _ _ => trivial) .ascending selfWatching _ recorded .done
  have opened : Drains (.recorded Unit 0) (.host drainsOnce recorded .done) [(0, 1)] drains :=
    called.tail trivial (.request .ascending .drain _ k .done)
  obtain ⟨⟨blocks, last, told, started⟩, _⟩ := drains_told_in_blocks starts steps installed opened
  obtain ⟨_, adds⟩ := drains_told_in_blocks starts steps installed called
  obtain ⟨report, m, ran, recording⟩ : ∃ report m,
      StepsWithin (.recorded Unit 0) k.drain (.done (.ok report) m) ∧
      m.recordedDrains 0 = [.drainStarted 0 1, .notified ⟨0⟩ 1, .generationDrained 1 1,
        .drainFinished 1 1 false] :=
    ⟨_, _, .head ⟨trivial, .start _ _ _ _ (.pure (.ok ()))⟩
      (.head ⟨trivial, .finish _ _ _⟩ .refl), rfl⟩
  obtain ⟨b, tells⟩ := (adds _ m ran).2 (0, 1) rfl
  refine ⟨installed, rfl, ?_, report, m, b, ran, recording, tells⟩
  have running : last.isSome = true := told.running.symm
  obtain ⟨c, rfl⟩ := Option.isSome_iff_exists.mp running
  cases blocks with
  | nil =>
    obtain ⟨first, _⟩ := List.cons.inj started
    exact ⟨c, told, congrArg Prod.fst first, congrArg Prod.snd first⟩
  | cons d rest =>
    have two := congrArg List.length started
    simp at two

end Kernel

end ReactiveKernel
