import ReactiveKernel.Execution.Activity

/-!
# Draining

A drain runs waves until nothing is pending, up to the limit of waves. What a callback causes
is delivered in the next wave. A failing callback is reported, and under the aborting policy it
ends the drain.
-/

namespace ReactiveKernel

variable {κ : Type}

namespace Kernel

/-- The kernel when a drain starts. -/
def beginDrain (k : Kernel κ) : Kernel κ :=
  (k.emit (.drainStarted k.generation k.schedule.pending.size)).mapState fun s =>
    { s with schedule := { s.schedule with draining := true } }

/-- The kernel when a drain has ended. -/
def endDrain (k : Kernel κ) (outcome : Except Fault Unit) (report : DrainReport) : Kernel κ :=
  let overrun := match outcome with
    | .error fault => fault.isCycleOverrun
    | .ok () => false
  let k := k.mapState fun s => { s with schedule := { s.schedule with draining := false } }
  (k.emit (.drainFinished report.endGeneration report.waves overrun)).log
    (.drainEnded report overrun)

/-- Take the pending set as a wave, in ascending order. -/
def takeWave (k : Kernel κ) : List SubscriptionId × Kernel κ :=
  let wave := k.schedule.pending.toList
  (wave, (k.mapState fun s => { s with schedule := s.schedule.takeWave }).note
    (.waveTaken (k.generation + 1) wave))

/-- The kernel with nothing pending. -/
def discardPending (k : Kernel κ) : Kernel κ :=
  k.mapState fun s => { s with schedule := s.schedule.discard }

/-- Give up a drain that reached the limit of waves. -/
def overrun (k : Kernel κ) : Fault × Kernel κ :=
  let limit := k.settings.waveLimit
  let discarded := k.schedule.pending.size
  (.cycleOverrun limit discarded,
    k.discardPending.log (.cycleOverrun limit discarded k.generation))

/-- Give up a drain after a failed callback. -/
def abortDrain (k : Kernel κ) (n : Notification) (fault : Fault) : Kernel κ :=
  k.discardPending.log
    (.callbackAborted n.subscription n.generation k.schedule.pending.size fault)

end Kernel

/-- The course of a wave. -/
structure WaveTally where
  /-- Callbacks started. -/
  callbacks : Nat
  /-- Notifications whose subscription was gone. -/
  stale : Nat
  /-- Callbacks that failed. -/
  failures : Nat
  deriving DecidableEq

namespace DrainReport

/-- The report when a wave starts. -/
def openWave (r : DrainReport) (generation : Nat) : DrainReport :=
  { r with waves := r.waves + 1, endGeneration := generation }

/-- The report when a wave has ended. -/
def closeWave (r : DrainReport) (t : WaveTally) : DrainReport :=
  { r with
    callbacksRun := r.callbacksRun + t.callbacks
    staleSkipped := r.staleSkipped + t.stale
    callbackFailures := r.callbackFailures + t.failures }

end DrainReport

namespace Kernel

/-- The kernel when a callback starts. -/
def startCallback (k : Kernel κ) (n : Notification) : Kernel κ :=
  (k.emit (.notified n.subscription n.generation)).note (.started n)

/-- The kernel when a callback has ended. -/
def finishCallback (k : Kernel κ) (n : Notification) (outcome : Except Fault Unit) : Kernel κ :=
  let fault := match outcome with
    | .error fault => some fault
    | .ok () => none
  k.note (.finished n fault)

/-- Deliver a wave in order. A subscription that is gone when its turn comes is skipped. -/
def deliver (generation : Nat) :
    List SubscriptionId → WaveTally → Kernel κ → Activity κ (Except Fault Unit × WaveTally)
  | [], tally, k => .done (.ok (), tally) k
  | id :: rest, tally, k =>
    match k.edges.callback? id with
    | none => deliver generation rest { tally with stale := tally.stale + 1 }
        (k.log (.stale id generation))
    | some (s, code) =>
      let n : Notification := ⟨id, s.source, s.target, generation⟩
      .react code (.notified n) (k.startCallback n) fun outcome k =>
        let k := k.finishCallback n outcome
        match outcome with
        | .ok () => deliver generation rest { tally with callbacks := tally.callbacks + 1 } k
        | .error fault =>
          let tally := { tally with
            callbacks := tally.callbacks + 1
            failures := tally.failures + 1 }
          match k.settings.onFailure with
          | .log => deliver generation rest tally (k.log (.callbackFailed id generation fault))
          | .abort => .done (.error fault, tally) (k.abortDrain n fault)

/-- Run waves until nothing is pending. Each wave uses up one of the waves that remain. -/
def waves : Nat → DrainReport → Kernel κ → Activity κ (Except Fault Unit × DrainReport)
  | remaining, report, k =>
    if k.schedule.pending.isEmpty then .done (.ok (), report) k
    else
      match remaining with
      | 0 =>
        let (fault, k) := k.overrun
        .done (.error fault, report) k
      | remaining + 1 =>
        let (wave, k) := k.takeWave
        let report := report.openWave k.generation
        (deliver k.generation wave ⟨0, 0, 0⟩ k).bind fun (outcome, tally) k =>
          match outcome with
          | .error fault => .done (.error fault, report.closeWave tally) k
          | .ok () =>
            waves remaining (report.closeWave tally)
              (k.emit (.generationDrained report.endGeneration tally.callbacks))

/-- Run waves until nothing is pending. A drain within a drain is refused. -/
def drain (k : Kernel κ) : Activity κ (Except Fault DrainReport) :=
  if k.schedule.draining then .done (.error .reentrant) k
  else
    let report := DrainReport.startingAt k.generation
    if k.schedule.pending.isEmpty then .done (.ok report) k
    else
      (k.beginDrain.waves k.settings.waveLimit report).bind fun (outcome, report) k =>
        .done (outcome.map fun () => report) (k.endDrain outcome report)

end Kernel

end ReactiveKernel
