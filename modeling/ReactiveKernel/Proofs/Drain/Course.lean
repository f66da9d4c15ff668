import ReactiveKernel.Proofs.Drain.Growth
import ReactiveKernel.Proofs.Effect.Murmurs

/-!
# The course of a drain that is running

The course of drains so far is made of blocks, with one that is still open while a drain is running.
Nobody but that drain adds to the course meanwhile. Between two waves, and within a wave between two
turns, the open block tells what has been done.
-/

namespace ReactiveKernel

variable {κ : Type}

namespace Kernel

variable {k k' : Kernel κ}

/-- The course of drains so far: blocks, and an open one while a drain is running. -/
structure InBlocks (k : Kernel κ) (blocks : List Block) (last : Option Block) : Prop where
  /-- All of them fit the limit of waves. -/
  fits : ∀ b ∈ blocks ++ last.toList, b.Fits k.settings.waveLimit
  /-- Their entries are the course. -/
  course : k.course = blocks.flatMap Block.entries ++ last.toList.flatMap Block.opened
  /-- One of them is open exactly while a drain is running. -/
  running : k.schedule.draining = last.isSome

end Kernel

/-- The course of drains is made of blocks, and the drains that were started are as a condition
says. Nobody else adds to the course of a drain that is running. -/
def Contract.blocks (κ : Type) (P : List (Nat × Nat) → Prop) : Contract κ where
  holds k := k.toState.Consistent ∧ (∃ blocks last, k.InBlocks blocks last) ∧ P (openings k.course)
  leads k k' := k.course <+: k'.course ∧ k'.settings = k.settings
  returns k k' := k'.schedule.draining = k.schedule.draining ∧
    (k.schedule.draining = true → k'.generation = k.generation ∧ k'.course = k.course)

namespace Contract

open Kernel

variable {P : List (Nat × Nat) → Prop} {k k' : Kernel κ}

/-- The course of drains only grows, and whoever has control leaves a running drain alone. -/
theorem blocks_ordered : (blocks κ P).Ordered where
  refl _ := ⟨List.prefix_rfl, rfl⟩
  trans h h' := ⟨h.1.trans h'.1, h'.2.trans h.2⟩
  returns_refl _ := ⟨rfl, fun _ => ⟨rfl, rfl⟩⟩
  returns_trans h h' := by
    refine ⟨h'.1.trans h.1, fun draining => ?_⟩
    obtain ⟨generation, course⟩ := h.2 draining
    obtain ⟨generation', course'⟩ := h'.2 (h.1.trans draining)
    exact ⟨generation'.trans generation, course'.trans course⟩

/-- Whoever leaves the course, the schedule and the settings alone keeps the contract. -/
theorem blocks_same (holds : (blocks κ P).holds k) (consistent : k'.toState.Consistent)
    (course : k'.course = k.course) (draining : k'.schedule.draining = k.schedule.draining)
    (generation : k'.generation = k.generation) (settings : k'.settings = k.settings) :
    (blocks κ P).Passes k k' := by
  obtain ⟨_, ⟨done, last, inBlocks⟩, condition⟩ := holds
  refine ⟨⟨consistent, ⟨done, last, ?_, course.trans inBlocks.course,
    draining.trans inBlocks.running⟩, ?_⟩, ⟨?_, settings⟩, draining, fun _ => ⟨generation, course⟩⟩
  · rw [settings]
    exact inBlocks.fits
  · rw [course]
    exact condition
  · rw [course]

/-- Actions of operations other than drains leave the course of drains alone. -/
theorem blocks_stable : (blocks κ P).Stable where
  toOrdered := blocks_ordered
  act order _ _ action holds := by
    obtain ⟨_, effect⟩ := action.effect holds.1
    exact blocks_same holds (effect.consistent holds.1) effect.course effect.draining
      effect.generation effect.settings

/-- Probes leave the course of drains alone. -/
theorem blocks_probe (p : Probe) (holds : (blocks κ P).holds k) :
    (blocks κ P).Passes k (p.perform k).2 := by
  have state := toState_probe p k
  exact blocks_same holds (state ▸ holds.1) (course_probe p k)
    (congrArg (fun s => s.schedule.draining) state) (congrArg State.generation state)
    (congrArg State.settings state)

end Contract

namespace Kernel

/-- A drain has begun after some entries. Nothing of its block is unfinished. -/
structure Begun (P : List (Nat × Nat) → Prop) (limit : Nat) (before : List (Occurrence κ))
    (b : Block) : Prop where
  /-- There were only blocks before. -/
  blocks : ∃ blocks : List Block, (∀ b ∈ blocks, b.Fits limit) ∧
    before = blocks.flatMap Block.entries
  /-- One more drain was admitted. -/
  admitted : P (openings before ++ [(b.generation, b.due.length)])
  /-- No wave is under way. -/
  whole : b.unfinished = none
  /-- The waves so far are in order. -/
  wellFormed : b.WellFormed

/-- A drain is running, and this is the course so far. -/
structure Underway (limit : Nat) (course : List (Occurrence κ)) (k : Kernel κ) : Prop where
  /-- The state is consistent. -/
  consistent : k.toState.Consistent
  /-- A drain is running. -/
  draining : k.schedule.draining = true
  /-- Its waves are limited. -/
  limit : k.settings.waveLimit = limit
  /-- The course so far. -/
  course : k.course = course

/-- The drain is between two waves. -/
structure Between (limit : Nat) (before : List (Occurrence κ)) (b : Block) (k : Kernel κ) :
    Prop where
  /-- What the drain has told so far comes last. -/
  underway : k.Underway limit (before ++ b.opened)
  /-- Each wave has opened a generation. -/
  generation : k.generation = b.generation + b.waves.length

/-- The drain is within a wave, and these turns are still to come. -/
structure Delivering (limit : Nat) (before : List (Occurrence κ)) (b : Block) (w : Wave)
    (rest : List SubscriptionId) (k : Kernel κ) : Prop where
  /-- What the drain has told so far comes last. -/
  underway : k.Underway limit
    (before ++ (b.opened ++ w.entries (b.generation + b.waves.length + 1)))
  /-- The wave has opened a generation. -/
  generation : k.generation = b.generation + b.waves.length + 1
  /-- The wave is in order. -/
  deals : b.Deals w rest

/-- A callback has aborted a wave by its fault, at the turn that was taken last. -/
def Breaks (w : Wave) (fault : Fault) (k' : Kernel κ) : Prop :=
  ∃ (m : Kernel κ) (n : Notification) (before : List Turn), m.settings.onFailure = .abort ∧
    w.turns = before ++ [⟨n.subscription, true⟩] ∧
    k' = (m.finishCallback n (.error fault)).abortDrain n fault

/-- How the waves of a block came to their end, and the kernel that they left. -/
inductive Halts (limit : Nat) (b : Block) : Except Fault Unit → Kernel κ → Prop
  /-- Nothing was due. -/
  | exhausted {m : Kernel κ} (whole : b.unfinished = none)
    (nothing : m.schedule.pending.isEmpty = true) : Halts limit b (.ok ()) m
  /-- Something was due, and no wave remained. -/
  | overran {m : Kernel κ} (whole : b.unfinished = none) (count : b.count = limit)
    (pending : m.schedule.pending.isEmpty = false) :
    Halts limit b (.error m.overrun.1) m.overrun.2
  /-- A callback has aborted the last wave. -/
  | aborted {m : Kernel κ} {w : Wave} {fault : Fault} (last : b.unfinished = some w)
    (breaks : Breaks w fault m) : Halts limit b (.error fault) m

variable {P : List (Nat × Nat) → Prop} {limit : Nat} {before more : List (Occurrence κ)} {b : Block}
  {w : Wave} {k k' : Kernel κ} {g : Nat} {id : SubscriptionId} {rest : List SubscriptionId}

section

/-- The course goes on by an entry. -/
theorem Underway.note (h : k.Underway limit before) {o : Occurrence κ}
    (tells : o.isOfCourse = true) : (k.note o).Underway limit (before ++ [o]) := by
  refine ⟨h.consistent, h.draining, h.limit, ?_⟩
  rw [course_note, h.course, List.filter_cons_of_pos tells, List.filter_nil]

/-- Other entries do not matter. -/
theorem Underway.other (h : k.Underway limit before) {o : Occurrence κ}
    (other : o.isOfCourse = false) : (k.note o).Underway limit before := by
  refine ⟨h.consistent, h.draining, h.limit, ?_⟩
  rw [course_note, h.course, List.filter_cons_of_neg (by simp [other]), List.filter_nil,
    List.append_nil]

/-- The course goes on by an event. -/
theorem Underway.emit (h : k.Underway limit before) {e : TraceEvent} (tells : e.isOfDrain = true) :
    (k.emit e).Underway limit (before ++ [.announced e]) := by
  refine ⟨h.consistent, h.draining, h.limit, ?_⟩
  have ours : (.announced e : Occurrence κ).isOfCourse = true := tells
  rw [course_emit, h.course, List.filter_cons_of_pos ours, List.filter_nil]

/-- Nothing is pending any more. -/
theorem Underway.discard (h : k.Underway limit before) : k.discardPending.Underway limit before :=
  have action : k.DrainAction k.discardPending :=
    .reschedule k.schedule.discard (by simp [Schedule.discard])
  ⟨(Contract.consistency_drainStable.drainAct action h.consistent).holds, h.draining, h.limit,
    h.course⟩

/-- The drain goes on when control comes back. -/
theorem Underway.resume (h : k.Underway limit before)
    (back : (Contract.blocks κ P).Passes k k') :
    k'.Underway limit before ∧ k'.generation = k.generation := by
  obtain ⟨running, alone⟩ := back.returns
  obtain ⟨generation, course⟩ := alone h.draining
  refine ⟨⟨back.holds.1, running.trans h.draining, ?_, course.trans h.course⟩, generation⟩
  rw [back.leads.2]
  exact h.limit

end

/-- The contract holds while a block is open. -/
theorem Begun.holds (begun : Begun P limit before b) {c : Block}
    (generation : c.generation = b.generation) (due : c.due = b.due) (fits : c.Fits limit)
    (h : k.Underway limit (before ++ c.opened)) : (Contract.blocks κ P).holds k := by
  obtain ⟨done, allFit, rfl⟩ := begun.blocks
  refine ⟨h.consistent, ⟨done, some c, ?_, ?_, h.draining⟩, ?_⟩
  · intro d hd
    rw [h.limit]
    rcases List.mem_append.mp hd with old | new
    · exact allFit d old
    · rw [List.mem_singleton.mp new]
      exact fits
  · rw [h.course]
    simp
  · rw [h.course, openings_append, c.openings_opened, generation, due]
    exact begun.admitted

/-- The contract holds when the block was closed and no drain is running. -/
theorem Begun.closed (begun : Begun P limit before b) {c : Block}
    (generation : c.generation = b.generation) (due : c.due = b.due) (fits : c.Fits limit)
    (consistent : k.toState.Consistent) (idle : k.schedule.draining = false)
    (settings : k.settings.waveLimit = limit) (course : k.course = before ++ c.entries) :
    (Contract.blocks κ P).holds k := by
  obtain ⟨done, allFit, rfl⟩ := begun.blocks
  refine ⟨consistent, ⟨done ++ [c], none, ?_, ?_, idle⟩, ?_⟩
  · intro d hd
    rw [settings]
    rcases List.mem_append.mp (List.append_nil _ ▸ hd) with old | new
    · exact allFit d old
    · rw [List.mem_singleton.mp new]
      exact fits
  · rw [course]
    simp
  · rw [course, openings_append, c.openings_entries, generation, due]
    exact begun.admitted

/-- One more wave that does not come to its end. -/
theorem Begun.interrupt (begun : Begun P limit before b) (deals : b.Deals w rest)
    (broken : ∃ before id, w.turns = before ++ [⟨id, true⟩]) (room : b.waves.length < limit) :
    (b.interrupt w).Fits limit where
  wellFormed := begun.wellFormed.interrupt begun.whole deals broken
  atMost := by
    rw [Block.count_interrupt]
    exact room
  taken _ := by
    rw [Block.count_interrupt]
    exact Nat.succ_pos _

/-- One more wave that comes to its end. -/
theorem Begun.complete (begun : Begun P limit before b) (deals : b.Deals w []) :
    Begun P limit before (b.complete w) :=
  ⟨begun.blocks, begun.admitted, begun.whole, begun.wellFormed.complete begun.whole deals⟩

namespace Delivering

/-- The turn of a subscription that is gone. -/
theorem stale (h : k.Delivering limit before b w (id :: rest)) :
    (k.log (.stale id (b.generation + b.waves.length + 1))).Delivering limit before b
      (w.turn id false) rest where
  underway := by
    rw [Wave.entries_turn, ← List.append_assoc b.opened, ← List.append_assoc before]
    exact h.underway.note rfl
  generation := h.generation
  deals := h.deals.turn false

/-- The turn of a subscription whose callback starts. -/
theorem start (h : k.Delivering limit before b w (id :: rest)) (source target : NodeId) :
    (k.startCallback ⟨id, source, target, b.generation + b.waves.length + 1⟩).Delivering limit
      before b (w.turn id true) rest where
  underway := by
    rw [Wave.entries_turn, ← List.append_assoc b.opened, ← List.append_assoc before]
    have notified := h.underway.emit
      (e := .notified id (b.generation + b.waves.length + 1)) rfl
    exact notified.other rfl
  generation := h.generation
  deals := h.deals.turn true

/-- Other entries do not matter. -/
theorem other (h : k.Delivering limit before b w rest) {o : Occurrence κ}
    (other : o.isOfCourse = false) : (k.note o).Delivering limit before b w rest :=
  ⟨h.underway.other other, h.generation, h.deals⟩

/-- A callback has ended. -/
theorem finish (h : k.Delivering limit before b w rest) (n : Notification)
    (outcome : Except Fault Unit) :
    (k.finishCallback n outcome).Delivering limit before b w rest :=
  h.other rfl

/-- The drain is aborted. -/
theorem abort (h : k.Delivering limit before b w rest) (n : Notification) (fault : Fault) :
    (k.abortDrain n fault).Delivering limit before b w rest :=
  ⟨h.underway.discard.other rfl, h.generation, h.deals⟩

/-- The wave goes on when control comes back. -/
theorem resume (h : k.Delivering limit before b w rest)
    (back : (Contract.blocks κ P).Passes k k') : k'.Delivering limit before b w rest := by
  obtain ⟨underway, generation⟩ := h.underway.resume back
  exact ⟨underway, generation.trans h.generation, h.deals⟩

/-- The contract holds while a callback has its turn. -/
theorem holds (h : k.Delivering limit before b (w.turn id true) rest)
    (begun : Begun P limit before b) (room : b.waves.length < limit) :
    (Contract.blocks κ P).holds k := by
  have fits := begun.interrupt h.deals ⟨w.turns, id, rfl⟩ room
  have underway := h.underway
  rw [← Block.opened_interrupt begun.whole] at underway
  exact begun.holds (c := b.interrupt (w.turn id true)) rfl rfl fits underway

/-- The report of a wave that was delivered. -/
theorem complete (h : k.Delivering limit before b w []) (whole : b.unfinished = none) :
    (k.emit (.generationDrained (b.generation + b.waves.length + 1) w.notified.length)).Between
      limit before (b.complete w) where
  underway := by
    rw [Block.opened_complete whole, ← List.append_assoc before]
    exact h.underway.emit rfl
  generation := by
    rw [Block.length_complete]
    exact h.generation

end Delivering

/-- What is due is taken as a wave. -/
theorem Between.takeWave (h : k.Between limit before b)
    (first : b.waves = [] → k.schedule.pending.toList = b.due) :
    k.takeWave.2.Delivering limit before b ⟨k.schedule.pending.toList, []⟩
      k.schedule.pending.toList where
  underway := by
    have action : k.DrainAction (k.mapState fun s => { s with schedule := s.schedule.takeWave }) :=
      .reschedule k.schedule.takeWave (by simp [Schedule.takeWave])
    have consistent :=
      (Contract.consistency_drainStable.drainAct action h.underway.consistent).holds
    have rescheduled : (k.mapState fun s => { s with schedule := s.schedule.takeWave }).Underway
        limit (before ++ b.opened) :=
      ⟨consistent, h.underway.draining, h.underway.limit, h.underway.course⟩
    rw [← List.append_assoc, ← h.generation]
    exact rescheduled.note rfl
  generation := congrArg (· + 1) h.generation
  deals := by
    have ordered : k.schedule.pending.toList.Pairwise fun a b => compare a b = .lt :=
      Std.ExtTreeSet.ordered_toList
    exact ⟨ordered.imp fun h => Nat.compare_eq_lt.mp h, rfl, first⟩

end Kernel

end ReactiveKernel
