import ReactiveKernel.Kernel.Destruction
import ReactiveKernel.Kernel.Mutation

/-!
# Histories

The history of a kernel is its journal without the quiet entries: those that a reader may want
to see and that say nothing about which subscriptions were due, or when. What is left are trace
events, waves, the starts of callbacks, and the log entries that only drains write.
-/

namespace ReactiveKernel

variable {κ : Type}

namespace LogEvent

/-- Whether only a drain writes an entry. -/
def isOfDrain : LogEvent → Bool
  | .stale .. | .callbackFailed .. | .callbackAborted .. | .cycleOverrun .. | .drainEnded .. => true
  | _ => false

end LogEvent

/-- Whether only a drain announces an event. -/
def TraceEvent.isOfDrain : TraceEvent → Bool
  | .notified .. | .drainStarted .. | .generationDrained .. | .drainFinished .. => true
  | _ => false

/-- The change that an event announces, and its node. -/
def TraceEvent.change? : TraceEvent → Option (NodeId × Change)
  | .fieldSet node field .. => some (node, .field field)
  | .itemsSet datum .. => some (.datum datum, .items)
  | .availabilitySet datum .. => some (.datum datum, .availability)
  | _ => none

namespace Occurrence

/-- Whether only a drain writes an entry, other than an announcement. -/
def isOfDrain : Occurrence κ → Bool
  | .logged e => e.isOfDrain
  | .waveTaken .. | .started _ | .finished .. => true
  | _ => false

/-- Whether an entry of the journal is left out of the history. -/
def isQuiet : Occurrence κ → Bool
  | .logged e => !e.isOfDrain
  | .announced _ | .waveTaken .. | .started _ => false
  | .delivered .. | .queued _ | .applying _ | .finished .. | .remarked _ => true

end Occurrence

namespace Kernel

/-- The entries of the journal that are not quiet. -/
def history (k : Kernel κ) : List (Occurrence κ) := k.journal.toList.filter fun o => !o.isQuiet

@[simp] theorem history_mapState (k : Kernel κ) (f : State κ → State κ) :
    (k.mapState f).history = k.history := rfl

/-- The history gains an entry that is written, unless it is quiet. -/
theorem history_note (k : Kernel κ) (o : Occurrence κ) :
    (k.note o).history = k.history ++ if o.isQuiet then [] else [o] := by
  cases h : o.isQuiet <;> simp [history, note, h]

/-- The history gains what is logged if only drains write it. -/
theorem history_log (k : Kernel κ) (e : LogEvent) :
    (k.log e).history = k.history ++ if e.isOfDrain then [.logged e] else [] := by
  rw [log, history_note]
  cases h : e.isOfDrain <;> simp [Occurrence.isQuiet, h]

@[simp] theorem history_emit (k : Kernel κ) (e : TraceEvent) :
    (k.emit e).history = k.history ++ [.announced e] := by
  simp only [history, emit]
  split <;> simp [Occurrence.isQuiet, LogEvent.isOfDrain]

end Kernel

end ReactiveKernel
