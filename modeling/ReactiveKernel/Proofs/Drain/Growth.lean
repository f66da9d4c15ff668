import ReactiveKernel.Proofs.Drain.Block

/-!
# Blocks that grow

The block of a drain that is running grows turn by turn and wave by wave. It stays in order if each
wave hands out its turns in the order of its members, and what the report counts is what the block
tells.
-/

namespace ReactiveKernel

variable {κ : Type}

/-- A wave with one more turn. -/
def Wave.turn (w : Wave) (id : SubscriptionId) (notified : Bool) : Wave :=
  { w with turns := w.turns ++ [⟨id, notified⟩] }

/-- One more turn adds its entry to those of the wave. -/
theorem Wave.entries_turn (w : Wave) (id : SubscriptionId) (notified : Bool) (g : Nat) :
    ((w.turn id notified).entries g : List (Occurrence κ)) =
      w.entries g ++ [Turn.entry g ⟨id, notified⟩] := by
  simp [Wave.entries, Wave.turn]

/-- One more turn adds its subscription to those that were notified, if its callback was. -/
theorem Wave.notified_turn (w : Wave) (id : SubscriptionId) (notified : Bool) :
    (w.turn id notified).notified = w.notified ++ if notified then [id] else [] := by
  cases notified <;> simp [Wave.notified, Wave.turn]

namespace Block

/-- A wave is under way, or was aborted. -/
def interrupt (b : Block) (w : Wave) : Block := { b with unfinished := some w }

/-- A wave was delivered to its end. -/
def complete (b : Block) (w : Wave) : Block := { b with waves := b.waves ++ [w] }

/-- A block that a drain can announce whose waves are limited. -/
structure Fits (b : Block) (limit : Nat) : Prop where
  /-- The block is in order. -/
  wellFormed : b.WellFormed
  /-- There are no more waves than the limit says. -/
  atMost : b.count ≤ limit
  /-- What was due was taken as a wave, if any wave was allowed. -/
  taken : 0 < limit → 0 < b.count

/-- A wave that comes next, and the turns in it that are still to come. -/
structure Deals (b : Block) (w : Wave) (rest : List SubscriptionId) : Prop where
  /-- The members ascend. -/
  ascending : w.members.Pairwise fun a b => a.raw < b.raw
  /-- The turns so far and those that are to come are the wave. -/
  order : w.members = w.turns.map Turn.subscription ++ rest
  /-- The first wave is what was due. -/
  first : b.waves = [] → w.members = b.due

variable {b : Block} {w : Wave} {id : SubscriptionId} {rest : List SubscriptionId} {limit : Nat}

/-- All waves of a block without an unfinished one were delivered. -/
theorem allWaves_of_whole (whole : b.unfinished = none) : b.allWaves = b.waves := by
  rw [allWaves, whole]
  exact List.append_nil _

/-- A block without an unfinished wave counts those that were delivered. -/
theorem count_of_whole (whole : b.unfinished = none) : b.count = b.waves.length := by
  rw [count, allWaves_of_whole whole]

/-- One more wave was delivered. -/
theorem length_complete : (b.complete w).waves.length = b.waves.length + 1 :=
  List.length_append

/-- A delivered wave counts as one more. -/
theorem count_complete (whole : b.unfinished = none) :
    (b.complete w).count = b.waves.length + 1 :=
  (count_of_whole (b := b.complete w) whole).trans length_complete

/-- A delivered wave is the last of all waves. -/
theorem allWaves_complete (whole : b.unfinished = none) :
    (b.complete w).allWaves = b.waves ++ [w] := by
  rw [allWaves_of_whole (b := b.complete w) whole, complete]

/-- An interrupted wave counts as one more. -/
theorem count_interrupt : (b.interrupt w).count = b.waves.length + 1 :=
  List.length_append

/-- The callbacks of an interrupted wave count with those before. -/
theorem callbacks_interrupt (whole : b.unfinished = none) :
    (b.interrupt w).callbacks = b.callbacks + w.notified.length := by
  simp [callbacks, allWaves, interrupt, whole]

/-- The callbacks of a delivered wave count with those before. -/
theorem callbacks_complete (whole : b.unfinished = none) :
    (b.complete w).callbacks = b.callbacks + w.notified.length := by
  simp [callbacks, allWaves_complete whole, allWaves_of_whole whole]

/-- An interrupted wave adds its entries to those of the block. -/
theorem opened_interrupt (whole : b.unfinished = none) :
    ((b.interrupt w).opened : List (Occurrence κ)) =
      b.opened ++ w.entries (b.generation + b.waves.length + 1) := by
  simp [opened, interrupt, count, allWaves, whole, Nat.add_assoc]

/-- A delivered wave adds its entries to those of the block, and the report of its callbacks. -/
theorem opened_complete (whole : b.unfinished = none) :
    ((b.complete w).opened : List (Occurrence κ)) =
      b.opened ++ w.entries (b.generation + b.waves.length + 1) ++
          [.announced
            (.generationDrained (b.generation + b.waves.length + 1) w.notified.length)] := by
  simp [opened, complete, whole, Wave.entriesAfter_snoc]

namespace Deals

/-- When a turn is taken, the turns after it are still to come. -/
theorem turn (h : b.Deals w (id :: rest)) (notified : Bool) :
    b.Deals (w.turn id notified) rest where
  ascending := h.ascending
  order := by
    rw [show (w.turn id notified).members = w.members from rfl, h.order]
    simp [Wave.turn]
  first := h.first

/-- The turns that are still to come are those that would be dropped. -/
theorem dropped (h : b.Deals w rest) : w.dropped = rest := by
  have length : w.turns.length = (w.turns.map Turn.subscription).length := by simp
  rw [Wave.dropped, h.order, length, List.drop_left]

/-- A wave that comes next is well formed, however far it has come. -/
theorem wellFormed (h : b.Deals w rest) : w.WellFormed where
  ascending := h.ascending
  order := h.dropped.symm ▸ h.order

end Deals

/-- What was due is still the first wave when another one comes. -/
theorem WellFormed.head (h : b.WellFormed) (whole : b.unfinished = none) (deals : b.Deals w rest) :
    ∀ v, (b.waves ++ [w]).head? = some v → v.members = b.due := by
  intro v head
  cases hw : b.waves with
  | nil =>
    rw [hw] at head
    cases head
    exact deals.first hw
  | cons u others =>
    rw [hw] at head
    cases head
    refine h.first _ ?_
    rw [allWaves_of_whole whole, hw]
    rfl

/-- All waves are still well formed when another one comes. -/
theorem WellFormed.snoc (h : b.WellFormed) (whole : b.unfinished = none) (deals : b.Deals w rest) :
    ∀ v ∈ b.waves ++ [w], v.WellFormed := by
  intro v hv
  rcases List.mem_append.mp hv with old | new
  · exact h.waves v (allWaves_of_whole whole ▸ old)
  · rw [List.mem_singleton.mp new]
    exact deals.wellFormed

/-- A well-formed block is well formed with an interrupted wave if that one broke off at a callback.
-/
theorem WellFormed.interrupt (h : b.WellFormed) (whole : b.unfinished = none)
    (deals : b.Deals w rest) (broken : ∃ before id, w.turns = before ++ [⟨id, true⟩]) :
    (b.interrupt w).WellFormed where
  waves := h.snoc whole deals
  first := h.head whole deals
  delivered := h.delivered
  broken v last := by
    cases last
    exact broken

/-- A well-formed block is well formed with a delivered wave. -/
theorem WellFormed.complete (h : b.WellFormed) (whole : b.unfinished = none)
    (deals : b.Deals w []) : (b.complete w).WellFormed where
  waves := by
    rw [allWaves_complete whole]
    exact h.snoc whole deals
  first := by
    rw [allWaves_complete whole]
    exact h.head whole deals
  delivered v hv := by
    rcases List.mem_append.mp hv with old | new
    · exact h.delivered v old
    · rw [List.mem_singleton.mp new]
      exact deals.dropped
  broken v last := by
    have none : b.unfinished = some v := last
    rw [whole] at none
    cases none

/-- A report tells of the waves so far. -/
structure Reported (b : Block) (report : DrainReport) : Prop where
  /-- Waves were counted. -/
  waves : report.waves = b.count
  /-- The generation at the end. -/
  generation : report.endGeneration = b.generation + b.count
  /-- Callbacks were counted. -/
  callbacks : report.callbacksRun = b.callbacks

/-- The report of one more wave. -/
theorem Reported.wave {report : DrainReport} {tally : WaveTally} {c : Block}
    (h : b.Reported report) (whole : b.unfinished = none)
    (tallied : tally.callbacks = w.notified.length) (generation : c.generation = b.generation)
    (count : c.count = b.waves.length + 1)
    (callbacks : c.callbacks = b.callbacks + w.notified.length) :
    c.Reported ((report.openWave (b.generation + b.waves.length + 1)).closeWave tally) where
  waves := by
    rw [count, ← count_of_whole whole, ← h.waves]
    rfl
  generation := by
    rw [generation, count]
    rfl
  callbacks := by
    rw [callbacks, ← h.callbacks, ← tallied]
    rfl

/-- The end of a drain is announced. -/
def close (b : Block) (overrun : Bool) : Block := { b with overrun := overrun }

/-- A well-formed block is well formed when its end is announced. -/
theorem WellFormed.close (h : b.WellFormed) (overrun : Bool) : (b.close overrun).WellFormed :=
  ⟨h.waves, h.first, h.delivered, h.broken⟩

/-- A report that tells of the waves of a block still does when its end is announced. -/
theorem Reported.close {report : DrainReport} (h : b.Reported report) (overrun : Bool) :
    (b.close overrun).Reported report :=
  ⟨h.waves, h.generation, h.callbacks⟩

end Block

end ReactiveKernel
