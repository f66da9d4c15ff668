import ReactiveKernel.Interchange

/-!
# Waves of notifications

Pending notifications form a set, so a subscription reached in several ways runs once. A wave
takes the whole set and opens a new generation; what its callbacks cause waits for the next
wave.
-/

namespace ReactiveKernel

/-- The notifications that wait to be delivered. -/
structure Schedule where
  /-- Subscriptions to notify in the next wave. -/
  pending : SubscriptionSet
  /-- Number of waves taken so far. -/
  generation : Nat
  /-- Whether a drain is running. -/
  draining : Bool

namespace Schedule

/-- Nothing is pending and no wave has been taken. -/
def initial : Schedule := ⟨∅, 0, false⟩

/-- The schedule with one more pending subscription. -/
def enqueue (s : Schedule) (id : SubscriptionId) : Schedule :=
  { s with pending := s.pending.insert id }

/-- The schedule after its pending set has been taken as a wave. -/
def takeWave (s : Schedule) : Schedule := { s with pending := ∅, generation := s.generation + 1 }

/-- The schedule with nothing pending. -/
def discard (s : Schedule) : Schedule := { s with pending := ∅ }

/-- A schedule in constructor notation. -/
def term (s : Schedule) : Text.Term :=
  .record "Scheduler" [("pending", .set (s.pending.toList.map SubscriptionId.term)),
    ("generation", .nat s.generation), ("draining", .bool s.draining)] false

end Schedule

/-- What a drain did. -/
structure DrainReport where
  /-- Generation before the first wave. -/
  startGeneration : Nat
  /-- Generation of the last wave. -/
  endGeneration : Nat
  /-- Waves run. -/
  waves : Nat
  /-- Callbacks started. -/
  callbacksRun : Nat
  /-- Notifications whose subscription was gone. -/
  staleSkipped : Nat
  /-- Callbacks that failed. -/
  callbackFailures : Nat
  /-- Events that were applied before the waves. -/
  eventsApplied : Nat
  /-- Events that were refused before the waves. -/
  eventsRejected : Nat
  deriving DecidableEq

namespace DrainReport

/-- The report of a drain that has done nothing yet. -/
def startingAt (generation : Nat) : DrainReport := ⟨generation, generation, 0, 0, 0, 0, 0, 0⟩

/-- Whether no wave was run. -/
def isIdle (r : DrainReport) : Bool := r.waves == 0

end DrainReport

end ReactiveKernel
