import Mathlib.Algebra.GroupWithZero.Nat
import ReactiveKernel.Proofs.Effect.Changes
import ReactiveKernel.Proofs.Trace.Narration

/-!
# Drains as blocks of events

A drain announces a block of events. It opens with the generation and the number of subscriptions
that are due, goes on wave by wave, and closes with the number of waves. The events of a wave are
the notifications of its callbacks, in the order of its members, and then their number, which is
missing if the wave was aborted. Next to the events, the journal has what was taken as a wave and
who was skipped in it; these entries together are the course of the drain.
-/

namespace ReactiveKernel

variable {κ : Type}

/-- A turn in a wave. A subscription that was not notified was gone, and was skipped. -/
structure Turn where
  /-- Whose turn it was. -/
  subscription : SubscriptionId
  /-- Whether its callback was notified. -/
  notified : Bool

/-- A wave, and the turns in it that were taken. -/
structure Wave where
  /-- What was taken as the wave, in order. -/
  members : List SubscriptionId
  /-- The turns that were taken, in order. -/
  turns : List Turn

namespace Wave

/-- The subscriptions whose callbacks were notified. -/
def notified (w : Wave) : List SubscriptionId :=
  (w.turns.filter Turn.notified).map Turn.subscription

/-- The members whose turns were not taken. -/
def dropped (w : Wave) : List SubscriptionId := w.members.drop w.turns.length

/-- The members ascend, and their turns were taken in order. -/
structure WellFormed (w : Wave) : Prop where
  /-- The members ascend strictly. -/
  ascending : w.members.Pairwise fun a b => a.raw < b.raw
  /-- Turns were taken of the first members. -/
  order : w.members = w.turns.map Turn.subscription ++ w.dropped

/-- The events of the notifications of a wave. -/
def events (generation : Nat) (w : Wave) : List TraceEvent :=
  w.notified.map (.notified · generation)

/-- The events of waves that were delivered to their end, the first of them right after a
generation. -/
def eventsAfter (generation : Nat) : List Wave → List TraceEvent
  | [] => []
  | w :: rest => w.events (generation + 1) ++
      .generationDrained (generation + 1) w.notified.length :: eventsAfter (generation + 1) rest

end Wave

/-- What a drain announces. -/
structure Block where
  /-- The generation before the first wave. -/
  generation : Nat
  /-- What was due when the drain started. -/
  due : List SubscriptionId
  /-- The waves that were delivered to their end. -/
  waves : List Wave
  /-- A last wave that was not. -/
  unfinished : Option Wave
  /-- Whether the drain was announced to have overrun. -/
  overrun : Bool

namespace Block

/-- All waves. -/
def allWaves (b : Block) : List Wave := b.waves ++ b.unfinished.toList

/-- The number of waves. -/
def count (b : Block) : Nat := b.allWaves.length

/-- The number of callbacks that were notified. -/
def callbacks (b : Block) : Nat := (b.allWaves.map fun w => w.notified.length).sum

/-- The events before the end of the drain. -/
def opening (b : Block) : List TraceEvent :=
  .drainStarted b.generation b.due.length :: Wave.eventsAfter b.generation b.waves ++
    b.unfinished.toList.flatMap (Wave.events (b.generation + b.count))

/-- The events of a drain. -/
def events (b : Block) : List TraceEvent :=
  b.opening ++ [.drainFinished (b.generation + b.count) b.count b.overrun]

/-- The waves are in order, what was due is the first one, and what was not delivered to its end
broke off at a callback. -/
structure WellFormed (b : Block) : Prop where
  /-- Each wave is in order. -/
  waves : ∀ w ∈ b.allWaves, w.WellFormed
  /-- What was due was taken as the first wave. -/
  first : ∀ w, b.allWaves.head? = some w → w.members = b.due
  /-- All turns were taken of the waves that were delivered to their end. -/
  delivered : ∀ w ∈ b.waves, w.dropped = []
  /-- The last turn of an unfinished wave is that of a callback. -/
  broken : ∀ w, b.unfinished = some w → ∃ before id, w.turns = before ++ [⟨id, true⟩]

end Block

/-! The entries of a course. -/

/-- Whether an entry tells of the course of a drain. -/
def Occurrence.isOfCourse : Occurrence κ → Bool
  | .announced e => e.isOfDrain
  | .waveTaken .. | .logged (.stale ..) => true
  | _ => false

/-- The start of a drain that an entry announces. -/
def Occurrence.opening? : Occurrence κ → Option (Nat × Nat)
  | .announced (.drainStarted generation pending) => some (generation, pending)
  | _ => none

/-- The drains that entries announce to have started: the generation, and how many subscriptions
were due. -/
def openings (entries : List (Occurrence κ)) : List (Nat × Nat) :=
  entries.filterMap Occurrence.opening?

@[simp] theorem openings_append (entries more : List (Occurrence κ)) :
    openings (entries ++ more) = openings entries ++ openings more :=
  List.filterMap_append

/-- The entry of a turn. -/
def Turn.entry (generation : Nat) (t : Turn) : Occurrence κ :=
  if t.notified then .announced (.notified t.subscription generation)
  else .logged (.stale t.subscription generation)

namespace Wave

/-- The entries of a wave: what was taken, and the turns. -/
def entries (generation : Nat) (w : Wave) : List (Occurrence κ) :=
  .waveTaken generation w.members :: w.turns.map (Turn.entry generation)

/-- The entries of waves that were delivered to their end. -/
def entriesAfter (generation : Nat) : List Wave → List (Occurrence κ)
  | [] => []
  | w :: rest => w.entries (generation + 1) ++
      .announced (.generationDrained (generation + 1) w.notified.length) ::
        entriesAfter (generation + 1) rest

end Wave

namespace Block

/-- The entries before the end of the drain. -/
def opened (b : Block) : List (Occurrence κ) :=
  .announced (.drainStarted b.generation b.due.length) ::
    Wave.entriesAfter b.generation b.waves ++
    b.unfinished.toList.flatMap (Wave.entries (b.generation + b.count))

/-- The entries of a drain. -/
def entries (b : Block) : List (Occurrence κ) :=
  b.opened ++ [.announced (.drainFinished (b.generation + b.count) b.count b.overrun)]

end Block

/-! The events among the entries. -/

namespace Wave

/-- Turns are announced as the notifications of the callbacks among them. -/
theorem announcements_turns (generation : Nat) (turns : List Turn) :
    announcements (turns.map (Turn.entry generation) : List (Occurrence κ)) =
      ((turns.filter Turn.notified).map Turn.subscription).map (.notified · generation) := by
  induction turns with
  | nil => rfl
  | cons t rest ih =>
    rw [announcements] at ih ⊢
    rw [List.map_cons, List.filterMap_cons, ih, List.filter_cons]
    cases h : t.notified <;> simp [Turn.entry, h, Occurrence.announced?]

/-- The entries of a wave announce its events. -/
theorem announcements_entries (generation : Nat) (w : Wave) :
    announcements (w.entries generation : List (Occurrence κ)) = w.events generation :=
  announcements_turns generation w.turns

/-- The entries of waves in a row announce their events. -/
theorem announcements_entriesAfter (generation : Nat) (waves : List Wave) :
    announcements (entriesAfter generation waves : List (Occurrence κ)) =
      eventsAfter generation waves := by
  induction waves generalizing generation with
  | nil => rfl
  | cons w rest ih =>
    rw [entriesAfter, announcements_append, announcements_entries, eventsAfter, ← ih]
    rfl

/-- No drain starts within a wave. -/
theorem openings_entries (generation : Nat) (w : Wave) :
    openings (w.entries generation : List (Occurrence κ)) = [] := by
  refine List.filterMap_eq_nil_iff.mpr fun o ho => ?_
  rcases List.mem_cons.mp ho with rfl | ho
  · rfl
  · obtain ⟨t, _, rfl⟩ := List.mem_map.mp ho
    cases h : t.notified <;> simp [Turn.entry, h, Occurrence.opening?]

/-- No drain starts within waves. -/
theorem openings_entriesAfter (generation : Nat) (waves : List Wave) :
    openings (entriesAfter generation waves : List (Occurrence κ)) = [] := by
  induction waves generalizing generation with
  | nil => rfl
  | cons w rest ih =>
    rw [entriesAfter, openings_append, openings_entries, List.nil_append]
    exact ih (generation + 1)

/-- One more wave. -/
theorem entriesAfter_snoc (generation : Nat) (waves : List Wave) (w : Wave) :
    (entriesAfter generation (waves ++ [w]) : List (Occurrence κ)) =
      entriesAfter generation waves ++ w.entries (generation + waves.length + 1) ++
        [.announced (.generationDrained (generation + waves.length + 1) w.notified.length)] := by
  induction waves generalizing generation with
  | nil => simp [entriesAfter]
  | cons v rest ih =>
    have next : generation + 1 + rest.length + 1 = generation + (v :: rest).length + 1 := by
      simp only [List.length_cons]
      omega
    rw [List.cons_append, entriesAfter, ih, next, entriesAfter]
    simp

end Wave

namespace Block

variable {b : Block}

/-- The entries before the end of a drain announce the events before it. -/
theorem announcements_opened (b : Block) :
    announcements (b.opened : List (Occurrence κ)) = b.opening := by
  have last : announcements (b.unfinished.toList.flatMap
      (Wave.entries (b.generation + b.count)) : List (Occurrence κ)) =
      b.unfinished.toList.flatMap (Wave.events (b.generation + b.count)) := by
    cases b.unfinished with
    | none => rfl
    | some w => simpa using Wave.announcements_entries _ w
  rw [opened, opening, announcements_append, last, ← Wave.announcements_entriesAfter (κ := κ)]
  rfl

/-- The entries of a drain announce its events. -/
theorem announcements_entries (b : Block) :
    announcements (b.entries : List (Occurrence κ)) = b.events := by
  rw [entries, announcements_append, announcements_opened]
  rfl

/-- One drain starts among the entries before the end of a drain: that one. -/
theorem openings_opened (b : Block) :
    openings (b.opened : List (Occurrence κ)) = [(b.generation, b.due.length)] := by
  have last : openings (b.unfinished.toList.flatMap
      (Wave.entries (b.generation + b.count)) : List (Occurrence κ)) = [] := by
    cases b.unfinished with
    | none => rfl
    | some w => simpa using Wave.openings_entries _ w
  have started : openings (.announced (.drainStarted b.generation b.due.length) ::
      Wave.entriesAfter b.generation b.waves : List (Occurrence κ)) =
      (b.generation, b.due.length) :: openings (Wave.entriesAfter b.generation b.waves :
        List (Occurrence κ)) := rfl
  rw [opened, openings_append, last, started, Wave.openings_entriesAfter]
  rfl

/-- One drain starts among the entries of a drain: that one. -/
theorem openings_entries (b : Block) :
    openings (b.entries : List (Occurrence κ)) = [(b.generation, b.due.length)] := by
  rw [entries, openings_append, openings_opened]
  rfl

/-- The drains that started among the entries of blocks are those of the blocks. -/
theorem openings_blocks (blocks : List Block) :
    openings (blocks.flatMap entries : List (Occurrence κ)) =
      blocks.map fun b => (b.generation, b.due.length) := by
  induction blocks with
  | nil => rfl
  | cons b rest ih =>
    rw [List.flatMap_cons, openings_append, openings_entries, ih]
    rfl

end Block

namespace Kernel

/-- The entries that tell of the course of drains. -/
def course (k : Kernel κ) : List (Occurrence κ) := k.journal.toList.filter Occurrence.isOfCourse

variable {k k' : Kernel κ}

/-- Quiet entries do not tell of drains. -/
theorem course_eq_history (k : Kernel κ) : k.course = k.history.filter Occurrence.isOfCourse := by
  rw [course, history, List.filter_filter]
  refine List.filter_congr fun o _ => ?_
  cases o with
  | logged e => cases e <;> rfl
  | announced e => simp [Occurrence.isQuiet]
  | _ => rfl

/-- Entries that are added to the history add to the course what they tell of it. -/
theorem course_append {entries : List (Occurrence κ)}
    (history : k'.history = k.history ++ entries) :
    k'.course = k.course ++ entries.filter Occurrence.isOfCourse := by
  rw [course_eq_history, course_eq_history, history, List.filter_append]

/-- An entry that is written adds to the course what it tells of it. -/
theorem course_note (k : Kernel κ) (o : Occurrence κ) :
    (k.note o).course = k.course ++ [o].filter Occurrence.isOfCourse := by
  simp [course, note]

/-- An announcement adds to the course what it tells of it. -/
theorem course_emit (k : Kernel κ) (e : TraceEvent) :
    (k.emit e).course = k.course ++ [.announced e].filter Occurrence.isOfCourse :=
  course_append (history_emit k e)

/-- What drains announce are the events of their course. -/
theorem told_course (k : Kernel κ) :
    k.told.filter TraceEvent.isOfDrain = announcements k.course := by
  rw [told, announcements, announcements, course, List.filter_filterMap, List.filterMap_filter]
  refine List.filterMap_congr fun o _ => ?_
  cases o with
  | announced e => cases h : e.isOfDrain <;> simp [Occurrence.announced?, Occurrence.isOfCourse, h]
  | logged e => cases e <;> rfl
  | _ => rfl

/-- An effect only adds announcements that drains do not make. -/
theorem Effect.announces {change : Option (NodeId × Change)} (h : k.Effect change k') :
    ∃ events : List TraceEvent, k'.history = k.history ++ events.map .announced ∧
      ∀ e ∈ events, e.isOfDrain = false := by
  cases h with
  | still _ _ history => exact ⟨[], history.trans (List.append_nil _).symm, by simp⟩
  | instantiated id template _ history => exact ⟨[_], history, List.forall_mem_singleton.mpr rfl⟩
  | datumCreated typeName content owner _ _ history =>
    exact ⟨[_], history, List.forall_mem_singleton.mpr rfl⟩
  | closureCreated template parent _ _ history =>
    exact ⟨[_], history, List.forall_mem_singleton.mpr rfl⟩
  | subscribed source target selector code _ _ _ _ history =>
    exact ⟨[_], history, List.forall_mem_singleton.mpr rfl⟩
  | changed e node change announces _ _ _ _ _ _ _ history =>
    refine ⟨[_], history, List.forall_mem_singleton.mpr ?_⟩
    cases e <;> first | rfl | cases announces
  | removed lost gone _ _ _ removes =>
    obtain ⟨cuts, cut⟩ := removes
    refine ⟨cuts, cut.history, fun e he => ?_⟩
    have removal := cut.removals e he
    cases e <;> first | rfl | cases removal

/-- An effect tells of no drain. -/
theorem Effect.course {change : Option (NodeId × Change)} (h : k.Effect change k') :
    k'.course = k.course := by
  obtain ⟨events, history, ours⟩ := h.announces
  have nothing : (events.map .announced : List (Occurrence κ)).filter Occurrence.isOfCourse =
      [] := by
    refine List.filter_eq_nil_iff.mpr fun o ho => ?_
    obtain ⟨e, he, rfl⟩ := List.mem_map.mp ho
    simp [Occurrence.isOfCourse, ours e he]
  rw [course_append history, nothing, List.append_nil]

/-- A probe does not add to the course. -/
theorem course_probe (p : Probe) (k : Kernel κ) : (p.perform k).2.course = k.course := by
  cases p with
  | remark text => exact (course_note k _).trans (List.append_nil _)
  | _ => rfl

end Kernel

end ReactiveKernel
