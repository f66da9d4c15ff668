import ReactiveKernel.Proofs.Drain.Course

/-!
# The course of drains is made of blocks

Whatever host code does, the course of drains is a sequence of blocks, with one that is still open
while a drain is running. A drain that finds something due adds one block, which tells how its waves
went and how they ended. Nobody else adds to the course, and while a drain is running, nobody gets
to start another one.
-/

namespace ReactiveKernel

variable {κ : Type}

namespace Contract

open Kernel

variable {P : List (Nat × Nat) → Prop} {limit : Nat} {before : List (Occurrence κ)} {b : Block}
  {w : Wave} {k k' : Kernel κ} {rest : List SubscriptionId}

/-- The course of drains grows when an entry is written. -/
theorem blocks_note (k : Kernel κ) (o : Occurrence κ) : (blocks κ P).leads k (k.note o) :=
  ⟨course_note k o ▸ List.prefix_append _ _, rfl⟩

/-- The course of drains grows when an event is announced. -/
theorem blocks_emit (k : Kernel κ) (e : TraceEvent) : (blocks κ P).leads k (k.emit e) :=
  ⟨course_emit k e ▸ List.prefix_append _ _, rfl⟩

/-- The course of drains grows when what is pending is discarded. -/
theorem blocks_discard (k : Kernel κ) (e : LogEvent) :
    (blocks κ P).leads k (k.discardPending.log e) :=
  blocks_note (P := P) k.discardPending (.logged e)

/-- The course of drains grows when a wave is taken. -/
theorem blocks_takeWave (k : Kernel κ) : (blocks κ P).leads k k.takeWave.2 :=
  blocks_note (P := P) (k.mapState fun s => { s with schedule := s.schedule.takeWave }) _

/-- What a wave comes to. -/
def Handled (limit : Nat) (before : List (Occurrence κ)) (b : Block) :
    Except Fault Unit × WaveTally → Kernel κ → Prop
  | (.ok (), tally), k => ∃ w, k.Delivering limit before b w [] ∧
      tally.callbacks = w.notified.length
  | (.error fault, tally), k => ∃ w rest, k.Delivering limit before b w rest ∧
      tally.callbacks = w.notified.length ∧ Breaks w fault k

/-- The delivery of a wave keeps to the grammar of blocks. By induction on the turns to come. -/
theorem blocks_deliver (begun : Begun P limit before b) (room : b.waves.length < limit)
    (tally : WaveTally) (h : k.Delivering limit before b w rest)
    (counted : tally.callbacks = w.notified.length) :
    (k.deliver (b.generation + b.waves.length + 1) rest tally).Keeps (blocks κ P)
      (Handled limit before b) k := by
  induction rest generalizing w tally k with
  | nil => exact ⟨blocks_ordered.refl k, w, h, counted⟩
  | cons id rest ih =>
    simp only [Kernel.deliver]
    split
    · refine (ih _ h.stale ?_).earlier blocks_ordered (blocks_note _ _)
      rw [Wave.notified_turn]
      simpa using counted
    · next e code _ =>
      have started := h.start e.source e.target
      have leads : (blocks κ P).leads k (k.startCallback
          ⟨id, e.source, e.target, b.generation + b.waves.length + 1⟩) :=
        blocks_ordered.trans (blocks_emit _ _)
          (blocks_note _ _)
      have more : tally.callbacks + 1 = (w.turn id true).notified.length := by
        rw [Wave.notified_turn]
        simpa using counted
      refine ⟨leads, started.holds begun room, fun outcome k' back => ?_⟩
      have finished := (started.resume back).finish
        ⟨id, e.source, e.target, b.generation + b.waves.length + 1⟩ outcome
      have noted : (blocks κ P).leads k' (k'.finishCallback
          ⟨id, e.source, e.target, b.generation + b.waves.length + 1⟩ outcome) :=
        blocks_note _ _
      cases outcome with
      | ok u => exact (ih _ finished more).earlier blocks_ordered noted
      | error fault =>
        simp only
        split
        · refine (ih _ (finished.other rfl) more).earlier blocks_ordered ?_
          exact blocks_ordered.trans noted (blocks_note _ _)
        · next policy =>
          refine ⟨blocks_ordered.trans noted (blocks_discard _ _), w.turn id true, rest,
            finished.abort _ fault, more, ?_⟩
          exact ⟨k', ⟨id, e.source, e.target, _⟩, w.turns, policy, rfl, rfl⟩

/-- What the waves of a drain come to. -/
structure Finished (limit : Nat) (before : List (Occurrence κ)) (b : Block)
    (result : Except Fault Unit × DrainReport) (k : Kernel κ) : Prop where
  /-- The block is in order. -/
  wellFormed : b.WellFormed
  /-- There are no more waves than the limit says. -/
  atMost : b.count ≤ limit
  /-- What the drain has told comes last. -/
  underway : k.Underway limit (before ++ b.opened)
  /-- The report tells of the waves. -/
  counts : b.Reported result.2
  /-- How the waves came to their end. -/
  halts : Halts limit b result.1 k

/-- The waves of a drain that has begun come to the end of its block. If something is due and a wave
remains, then there is one more wave. -/
def Runs (limit : Nat) (before : List (Occurrence κ)) (b : Block) (k₀ : Kernel κ) (remaining : Nat)
    (result : Except Fault Unit × DrainReport) (k : Kernel κ) : Prop :=
  ∃ c : Block, c.generation = b.generation ∧ c.due = b.due ∧ Finished limit before c result k ∧
    b.count ≤ c.count ∧
    (k₀.schedule.pending.isEmpty = false → 0 < remaining → b.count < c.count)

/-- Nothing is due any more. -/
theorem runs_exhausted (begun : Begun P limit before b) (room : b.waves.length ≤ limit)
    (h : k.Between limit before b) {report : DrainReport} (counts : b.Reported report)
    (empty : k.schedule.pending.isEmpty = true) (remaining : Nat) :
    Runs limit before b k remaining (.ok (), report) k := by
  have count : b.count = b.waves.length := Block.count_of_whole begun.whole
  refine ⟨b, rfl, rfl, ?_, Nat.le_refl _, fun pending => ?_⟩
  · exact ⟨begun.wellFormed, count.trans_le room, h.underway, counts, .exhausted begun.whole empty⟩
  · rw [empty] at pending
    cases pending

/-- Something is due, and no wave remains. -/
theorem runs_overran (begun : Begun P limit before b) (full : b.waves.length = limit)
    (h : k.Between limit before b) {report : DrainReport} (counts : b.Reported report)
    (pending : k.schedule.pending.isEmpty = false) :
    Runs limit before b k 0 (.error k.overrun.1, report) k.overrun.2 := by
  have all : b.count = limit := (Block.count_of_whole begun.whole).trans full
  refine ⟨b, rfl, rfl, ?_, Nat.le_refl _, fun _ none => absurd none (Nat.lt_irrefl 0)⟩
  exact ⟨begun.wellFormed, all.le, h.underway.discard.other rfl, counts,
    .overran begun.whole all pending⟩

/-- A callback has aborted a wave. -/
theorem runs_aborted (begun : Begun P limit before b) (room : b.waves.length < limit)
    (broken : k'.Delivering limit before b w rest) {fault : Fault} (breaks : Breaks w fault k')
    {report : DrainReport} (counts : b.Reported report) {tally : WaveTally}
    (tallied : tally.callbacks = w.notified.length) (remaining : Nat) :
    Runs limit before b k remaining (.error fault,
      (report.openWave (b.generation + b.waves.length + 1)).closeWave tally) k' := by
  obtain ⟨_, n, earlier, _, turns, _⟩ := id breaks
  have fits := begun.interrupt broken.deals ⟨earlier, n.subscription, turns⟩ room
  have more : (b.interrupt w).count = b.waves.length + 1 := Block.count_interrupt
  have longer : b.count < (b.interrupt w).count := by
    rw [more, Block.count_of_whole begun.whole]
    exact Nat.lt_succ_self _
  have underway := broken.underway
  rw [← Block.opened_interrupt begun.whole] at underway
  refine ⟨b.interrupt w, rfl, rfl, ?_, longer.le, fun _ _ => longer⟩
  refine ⟨fits.wellFormed, fits.atMost, underway, ?_, .aborted rfl breaks⟩
  exact counts.wave begun.whole tallied rfl more (Block.callbacks_interrupt begun.whole)

/-- The waves after one that was run to its end come to the end of the same block. -/
theorem Runs.of_complete {m : Kernel κ} {remaining : Nat}
    {result : Except Fault Unit × DrainReport} (whole : b.unfinished = none)
    (h : Runs limit before (b.complete w) k remaining result k') :
    Runs limit before b m (remaining + 1) result k' := by
  obtain ⟨c, generation, due, finished, least, _⟩ := h
  have longer : b.count < c.count := by
    rw [Block.count_complete whole] at least
    rw [Block.count_of_whole whole]
    exact least
  exact ⟨c, generation, due, finished, longer.le, fun _ _ => longer⟩

/-- The waves of a drain keep to the grammar of blocks. By induction on how many remain. -/
theorem blocks_waves (remaining : Nat) (begun : Begun P limit before b)
    (room : b.waves.length + remaining = limit) (report : DrainReport)
    (h : k.Between limit before b) (counts : b.Reported report)
    (first : b.waves = [] → k.schedule.pending.toList = b.due) :
    (k.waves remaining report).Keeps (blocks κ P) (Runs limit before b k remaining) k := by
  induction remaining generalizing b report k with
  | zero =>
    unfold Kernel.waves
    split
    · next empty =>
      exact ⟨blocks_ordered.refl k, runs_exhausted begun room.le h counts empty 0⟩
    · next pending =>
      exact ⟨blocks_discard k _,
        runs_overran begun room h counts (Bool.eq_false_iff.mpr pending)⟩
  | succ remaining ih =>
    unfold Kernel.waves
    split
    · next empty =>
      exact ⟨blocks_ordered.refl k, runs_exhausted begun (by omega) h counts empty _⟩
    · have taken := h.takeWave first
      have same : k.takeWave.2.generation = b.generation + b.waves.length + 1 := taken.generation
      have wave : k.takeWave.1 = k.schedule.pending.toList := rfl
      have spare : b.waves.length < limit := by omega
      simp only [same, wave]
      refine .earlier blocks_ordered (blocks_takeWave k) (.bind blocks_ordered
        ((blocks_deliver begun spare ⟨0, 0, 0⟩ taken rfl).mono ?_))
      rintro ⟨outcome, tally⟩ k' handled
      cases outcome with
      | error fault =>
        obtain ⟨w, rest, broken, tallied, breaks⟩ := handled
        exact ⟨blocks_ordered.refl k', runs_aborted begun spare broken breaks counts tallied _⟩
      | ok u =>
        obtain ⟨w, delivered, tallied⟩ := handled
        have next := begun.complete delivered.deals
        have longer : (b.complete w).waves.length = b.waves.length + 1 := Block.length_complete
        have between := delivered.complete begun.whole
        rw [← tallied] at between
        have counted := counts.wave begun.whole tallied (c := b.complete w) rfl
          (Block.count_complete begun.whole) (Block.callbacks_complete begun.whole)
        have goesOn := ih next (by omega) _ between counted fun none => by
          rw [none] at longer
          cases longer
        exact (goesOn.mono fun result m runs => runs.of_complete begun.whole).earlier
          blocks_ordered (blocks_emit _ _)

end Contract

namespace Kernel

open Contract

variable {P : List (Nat × Nat) → Prop} {limit : Nat} {before : List (Occurrence κ)} {b : Block}
  {k k' m : Kernel κ} {result : Except Fault Unit}

/-- How the waves of a block came to their end does not depend on whether an overrun is announced.
-/
theorem Halts.close (h : Halts limit b result m) (overrun : Bool) :
    Halts limit (b.close overrun) result m := by
  cases h with
  | exhausted whole nothing => exact .exhausted whole nothing
  | overran whole count pending => exact .overran whole count pending
  | aborted last breaks => exact .aborted last breaks

/-- A drain that found something due has added a block. -/
structure AddsBlock (k : Kernel κ) (b : Block) (outcome : Except Fault DrainReport)
    (k' : Kernel κ) : Prop where
  /-- The block fits the limit of waves. -/
  fits : b.Fits k.settings.waveLimit
  /-- The generation when the drain started. -/
  generation : b.generation = k.generation
  /-- What was due then. -/
  due : b.due = k.schedule.pending.toList
  /-- The block comes after the course so far. -/
  course : k'.course = k.course ++ b.entries
  /-- The drain is said to have overrun if it ends with such an error. -/
  overrun : b.overrun = true ↔ ∃ fault, outcome = .error fault ∧ fault.isCycleOverrun = true
  /-- How the waves came to their end, and what is reported of them. -/
  halts : ∃ result m report, Halts k.settings.waveLimit b result m ∧ b.Reported report ∧
    outcome = result.map (fun _ => report) ∧ k' = m.endDrain result report

/-- The block of a drain that starts. -/
def openBlock (k : Kernel κ) : Block := ⟨k.generation, k.schedule.pending.toList, [], none, false⟩

/-- When a drain starts, it opens its block. -/
theorem course_beginDrain (k : Kernel κ) :
    k.beginDrain.course = k.course ++ k.openBlock.opened := by
  have size : k.schedule.pending.toList.length = k.schedule.pending.size :=
    Std.ExtTreeSet.length_toList
  have opened : (k.openBlock.opened : List (Occurrence κ)) =
      [.announced (.drainStarted k.generation k.schedule.pending.size)] := by
    rw [← size]
    rfl
  rw [opened]
  exact course_emit k _

/-- The block is closed when the drain ends. -/
theorem course_endDrain (result : Except Fault Unit) {report : DrainReport}
    (course : m.course = before ++ b.opened)
    (counts : b.Reported report) : ∃ overrun, (m.endDrain result report).course =
      before ++ (b.close overrun).entries ∧
      (overrun = true ↔ ∃ fault, result = .error fault ∧ fault.isCycleOverrun = true) := by
  obtain ⟨overrun, ended, means⟩ : ∃ overrun, m.endDrain result report =
      ((m.mapState fun s => { s with schedule := { s.schedule with draining := false } }).emit
        (.drainFinished report.endGeneration report.waves overrun)).log
        (.drainEnded report overrun) ∧
      (overrun = true ↔ ∃ fault, result = .error fault ∧ fault.isCycleOverrun = true) := by
    cases result with
    | ok u => exact ⟨false, rfl, by simp⟩
    | error fault => exact ⟨fault.isCycleOverrun, rfl, by simp⟩
  refine ⟨overrun, ?_, means⟩
  have idle : (m.mapState fun s =>
      { s with schedule := { s.schedule with draining := false } }).course = m.course := rfl
  have closed : ((b.close overrun).entries : List (Occurrence κ)) =
      b.opened ++ [.announced (.drainFinished (b.generation + b.count) b.count overrun)] := rfl
  rw [ended, log, course_note, course_emit, idle, course, closed, counts.waves, counts.generation]
  simp [Occurrence.isOfCourse, TraceEvent.isOfDrain]

/-- The end of a drain leaves a consistent state. -/
theorem consistent_endDrain (consistent : m.toState.Consistent) (report : DrainReport) :
    (m.endDrain result report).toState.Consistent :=
  consistency_drainStable.endDrain result report consistent |>.holds

/-- A drain has begun when nothing but blocks came before it. -/
theorem InBlocks.begun (holds : (Contract.blocks κ P).holds k)
    (idle : k.schedule.draining = false)
    (admitted : P (openings k.course ++ [(k.generation, k.schedule.pending.size)])) :
    Begun P k.settings.waveLimit k.course k.openBlock := by
  obtain ⟨_, ⟨done, last, inBlocks⟩, _⟩ := holds
  have size : k.openBlock.due.length = k.schedule.pending.size := Std.ExtTreeSet.length_toList
  obtain rfl : last = none := Option.not_isSome_iff_eq_none.mp (by simp [← inBlocks.running, idle])
  refine ⟨⟨done, ?_, ?_⟩, ?_, rfl, ?_⟩
  · intro b hb
    exact inBlocks.fits b (List.mem_append_left _ hb)
  · rw [inBlocks.course]
    simp
  · rw [size]
    exact admitted
  · exact ⟨by simp [openBlock, Block.allWaves], by simp [openBlock, Block.allWaves],
      by simp [openBlock], by simp [openBlock]⟩

/-- The first wave of a drain comes after the start of the drain. -/
theorem between_beginDrain (consistent : k.toState.Consistent) :
    k.beginDrain.Between k.settings.waveLimit k.course k.openBlock where
  underway := ⟨(consistency_drainStable.beginDrain consistent).holds, rfl, rfl,
    k.course_beginDrain⟩
  generation := rfl

end Kernel

namespace Contract

open Kernel

variable {P : List (Nat × Nat) → Prop} {k : Kernel κ}

/-- The course of drains grows when a drain starts. -/
theorem blocks_beginDrain (k : Kernel κ) : (blocks κ P).leads k k.beginDrain :=
  blocks_emit (P := P) k _

/-- The course of drains grows when a drain ends. -/
theorem blocks_endDrain (k : Kernel κ) (result : Except Fault Unit) (report : DrainReport) :
    (blocks κ P).leads k (k.endDrain result report) := by
  let idle := k.mapState fun s => { s with schedule := { s.schedule with draining := false } }
  have ended (overrun : Bool) : (blocks κ P).leads k
      ((idle.emit (.drainFinished report.endGeneration report.waves overrun)).log
        (.drainEnded report overrun)) :=
    blocks_ordered.trans (blocks_emit (P := P) idle _) (blocks_note _ _)
  exact ended _

/-- A drain that finds something due adds a block. -/
theorem blocks_drain_due (holds : (blocks κ P).holds k) (idle : k.schedule.draining = false)
    (due : k.schedule.pending.isEmpty = false)
    (admitted : P (openings k.course ++ [(k.generation, k.schedule.pending.size)])) :
    k.drain.Keeps (blocks κ P)
      (fun outcome k' => (blocks κ P).Passes k k' ∧ ∃ b, k.AddsBlock b outcome k')
      k.beginDrain := by
  have begun := InBlocks.begun holds idle admitted
  have between := between_beginDrain holds.1
  have counts : k.openBlock.Reported (.startingAt k.generation) := ⟨rfl, rfl, rfl⟩
  unfold Kernel.drain
  rw [if_neg (by simp [idle]), if_neg (by simp [due])]
  refine .bind blocks_ordered (((blocks_waves _ begun (Nat.zero_add _) _ between counts
    fun _ => rfl).led blocks_ordered (blocks_beginDrain k)).mono ?_)
  rintro ⟨result, report⟩ m ⟨leads, c, generation, same, finished, _, taken⟩
  obtain ⟨overrun, course, means⟩ :=
    course_endDrain result finished.underway.course finished.counts
  have fits : (c.close overrun).Fits k.settings.waveLimit :=
    ⟨finished.wellFormed.close overrun, finished.atMost, fun some => taken due some⟩
  have adds : k.AddsBlock (c.close overrun) (result.map fun _ => report)
      (m.endDrain result report) := by
    refine ⟨fits, generation, same, course, ?_, ?_⟩
    · cases result <;> simpa [Except.map, Block.close] using means
    · exact ⟨result, m, report, finished.halts.close overrun, finished.counts.close overrun, rfl,
        rfl⟩
  have settings : (m.endDrain result report).settings = k.settings := leads.2
  have ended : (blocks κ P).Passes k (m.endDrain result report) := by
    have consistent : (m.endDrain result report).toState.Consistent :=
      consistent_endDrain finished.underway.consistent report
    have closed := begun.closed (c := c.close overrun) generation same fits consistent rfl
      (congrArg Settings.waveLimit settings) course
    refine ⟨closed, ⟨course ▸ List.prefix_append _ _, settings⟩, idle.symm, fun draining => ?_⟩
    rw [idle] at draining
    cases draining
  exact ⟨blocks_endDrain m result report, ended, _, adds⟩

end Contract

namespace Kernel

/-- What a drain announces when it starts: the generation, and how many subscriptions are due. It
does not start if nothing is due or a drain is running. -/
def opening? (k : Kernel κ) : Option (Nat × Nat) :=
  if k.schedule.draining || k.schedule.pending.isEmpty then none
  else some (k.generation, k.schedule.pending.size)

variable {k : Kernel κ} {x : Nat × Nat}

/-- A drain opens a block only if none is running and something is due. -/
theorem opening_eq_some (h : k.opening? = some x) : k.schedule.draining = false ∧
    k.schedule.pending.isEmpty = false ∧ x = (k.generation, k.schedule.pending.size) := by
  unfold opening? at h
  split at h
  · cases h
  · next neither =>
    simp only [Bool.or_eq_true, not_or, Bool.not_eq_true] at neither
    exact ⟨neither.1, neither.2, (Option.some.inj h).symm⟩

/-- A drain that does not start leaves the kernel as it was. -/
theorem drain_of_opening_none (h : k.opening? = none) :
    ∃ outcome, k.drain = .done outcome k := by
  unfold drain
  split
  · exact ⟨_, rfl⟩
  · next idle =>
    split
    · exact ⟨_, rfl⟩
    · next due => simp [opening?, idle, due] at h

end Kernel

/-- A drain may start only if it keeps a condition on the drains that were started. -/
def Call.Keeps (P : List (Nat × Nat) → Prop) (c : Call) (k : Kernel κ) : Prop :=
  c = .drain → ∀ x, k.opening? = some x → P (openings k.course ++ [x])

namespace Contract

open Kernel

variable {P : List (Nat × Nat) → Prop} {k : Kernel κ}

/-- A drain adds one block to the course, if any. -/
theorem blocks_drain (holds : (blocks κ P).holds k) (keeps : Call.drain.Keeps P k) :
    k.drain.Safe (blocks κ P) k := by
  cases start : k.opening? with
  | none =>
    obtain ⟨outcome, refused⟩ := drain_of_opening_none start
    rw [refused]
    exact .done (blocks_ordered.passes_refl holds)
  | some x =>
    obtain ⟨idle, due, rfl⟩ := opening_eq_some start
    have drained := blocks_drain_due holds idle due (keeps rfl _ start)
    exact (drained.earlier blocks_ordered (blocks_beginDrain k)).mono fun _ _ done => done.1

/-- Every run keeps the contract in which drains start only as the condition says. -/
theorem blocks_soundFor : (blocks κ P).SoundFor (Call.Keeps P) where
  toOrdered := blocks_ordered
  command order c _ holds := blocks_stable.act order (.command c) holds
  probe p _ holds := blocks_probe p holds
  call order c _ keeps holds := by
    have receptive := (blocks_stable (κ := κ) (P := P)).receptive
    cases c with
    | instantiate template parent params =>
      exact receptive.instantiate order template parent params holds
    | callSite parent index => exact receptive.callSite order parent index holds
    | run template => exact receptive.run order template holds
    | drain => exact blocks_drain holds keeps
    | drainEvents => exact receptive.drainEvents order holds

/-- Every run keeps the contract, whatever drains are started. -/
theorem blocks_sound : (blocks κ fun _ => True).Sound :=
  blocks_stable.sound (fun p _ holds => blocks_probe p holds)
    fun _ holds => blocks_drain holds fun _ _ _ => trivial

/-- The course of a new kernel is made of no blocks. -/
theorem blocks_create (none : P []) (settings : Settings) (templates : TemplateLibrary κ) :
    (blocks κ P).holds (Kernel.create settings templates) := by
  have empty : (Kernel.create settings templates).course = [] := rfl
  refine ⟨consistent_create settings templates, ⟨[], .none, by simp, empty, rfl⟩, ?_⟩
  rw [empty]
  exact none

end Contract

namespace Kernel

open Contract

variable {k k' : Kernel κ} {outcome : Except Fault DrainReport} {x : Nat × Nat}

/-- The course of a reachable kernel is made of blocks. -/
theorem Reachable.blocks (h : k.Reachable) : (Contract.blocks κ fun _ => True).holds k :=
  blocks_sound.reachable (blocks_create trivial) h

/-- A drain of a reachable kernel that starts adds a block. -/
theorem Reachable.addsBlock (h : k.Reachable) (starts : k.opening? = some x)
    (steps : Activity.Steps k.drain (.done outcome k')) : ∃ b, k.AddsBlock b outcome k' := by
  obtain ⟨idle, due, rfl⟩ := opening_eq_some starts
  have drains := blocks_drain_due h.blocks idle due trivial
  exact (blocks_sound.steps drains steps).2.2

end Kernel

end ReactiveKernel
