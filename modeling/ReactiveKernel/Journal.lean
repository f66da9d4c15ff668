import ReactiveKernel.Edge
import ReactiveKernel.Event
import ReactiveKernel.Fault
import ReactiveKernel.Schedule
import ReactiveKernel.Settings
import ReactiveKernel.Trace

/-!
# The journal

The journal is the append-only record of everything that a kernel did, kept whether or not a
sink is in use. Its log entries are what a host shows to a reader: each has a level, a message
and named fields.
-/

namespace ReactiveKernel

/-- Importance of a log entry. -/
inductive LogLevel where
  | trace
  | debug
  | info
  | warn
  | error
  deriving DecidableEq

namespace LogLevel

/-- Name of a level in logs. -/
def name : LogLevel → String
  | .trace => "TRACE"
  | .debug => "DEBUG"
  | .info => "INFO"
  | .warn => "WARN"
  | .error => "ERROR"

/-- Levels in ascending importance. -/
def rank : LogLevel → Nat
  | .trace => 0
  | .debug => 1
  | .info => 2
  | .warn => 3
  | .error => 4

end LogLevel

/-- Something worth a log entry. -/
inductive LogEvent where
  | kernelCreated (templates : Nat) (settings : Settings)
  | settingIgnored (setting : IgnoredSetting)
  | datumCreated (datum : DatumId) (typeName : String)
  | availabilitySet (datum : DatumId) (availability : Availability)
  | datumDestroyed (datum : DatumId)
  | fieldSet (node : NodeId) (field : String) (generation : Nat)
  | enqueued (subscription : SubscriptionId) (source : NodeId)
  | caughtUp (subscription : SubscriptionId) (source : NodeId)
  | instantiateFailed (closure : ClosureId) (template : String) (fault : Fault)
  | destroyedWhileInstantiated (closure : ClosureId) (template : String)
  | instantiated (closure : ClosureId) (template : String)
  | closureDestroyed (closure : ClosureId)
  | runFailed (template : String) (root : ClosureId) (fault : Fault)
  | ran (template : String) (root : ClosureId) (waves : Nat)
  | stale (subscription : SubscriptionId) (generation : Nat)
  | callbackFailed (subscription : SubscriptionId) (generation : Nat) (fault : Fault)
  | callbackAborted (subscription : SubscriptionId) (generation discarded : Nat) (fault : Fault)
  | cycleOverrun (limit discarded generation : Nat)
  | drainEnded (report : DrainReport) (overrun : Bool)
  | eventRejected (tag : String) (fault : Fault)
  | eventsApplied (applied rejected : Nat)
  | traced (event : TraceEvent)

namespace LogEvent

/-- Importance of an entry. -/
def level : LogEvent → LogLevel
  | .kernelCreated .. | .instantiated .. | .closureDestroyed .. | .ran .. | .drainEnded ..
  | .eventsApplied .. => .debug
  | .settingIgnored .. | .instantiateFailed .. | .destroyedWhileInstantiated .. | .runFailed ..
  | .callbackFailed .. | .callbackAborted .. | .eventRejected .. => .warn
  | .cycleOverrun .. => .error
  | .datumCreated .. | .availabilitySet .. | .datumDestroyed .. | .fieldSet .. | .enqueued ..
  | .caughtUp .. | .stale .. | .traced .. => .trace

/-- The message of an entry. -/
def message : LogEvent → String
  | .kernelCreated .. => "runtime.new"
  | .settingIgnored .. => "config.ignored"
  | .datumCreated .. => "datum.create"
  | .availabilitySet .. => "datum.availability"
  | .datumDestroyed .. => "datum.destroy"
  | .fieldSet .. => "field.set"
  | .enqueued .. => "notify.enqueue"
  | .caughtUp .. => "subscribe.catch_up"
  | .instantiateFailed .. => "closure.instantiate_failed"
  | .destroyedWhileInstantiated .. => "closure.destroyed_during_instantiate"
  | .instantiated .. => "closure.instantiate"
  | .closureDestroyed .. => "closure.destroy"
  | .runFailed .. => "runtime.run_failed"
  | .ran .. => "runtime.run"
  | .stale .. => "drain.stale"
  | .callbackFailed .. => "drain.callback_failed"
  | .callbackAborted .. => "drain.callback_aborted"
  | .cycleOverrun .. => "drain.cycle_overrun"
  | .drainEnded .. => "drain.end"
  | .eventRejected .. => "event.rejected"
  | .eventsApplied .. => "event.applied"
  | .traced .. => "frel.trace"

/-- The named fields of an entry. -/
def fields : LogEvent → List (String × Json)
  | .kernelCreated templates settings =>
    [("templates", .nat templates), ("gen_limit", .nat settings.waveLimit),
     ("entry", .text settings.entryTemplate)]
  | .settingIgnored (.waveLimit value) =>
    [("key", .text Settings.waveLimitKey), ("value", .text value)]
  | .settingIgnored (.onFailure refusal) =>
    [("key", .text Settings.onFailureKey), ("err", .text refusal)]
  | .datumCreated datum typeName =>
    [("datum", .text datum.display), ("type_name", .text typeName)]
  | .availabilitySet datum availability =>
    [("datum", .text datum.display), ("availability", .text availability.term.render)]
  | .datumDestroyed datum => [("datum", .text datum.display)]
  | .fieldSet node field generation =>
    [("node", .text node.display), ("field", .text field), ("generation", .nat generation)]
  | .enqueued subscription source =>
    [("subscription", .text subscription.display), ("source", .text source.display)]
  | .caughtUp subscription source =>
    [("subscription", .text subscription.display), ("source", .text source.display)]
  | .instantiateFailed closure template fault =>
    [("closure", .text closure.display), ("template", .text template),
     ("err", .text fault.message)]
  | .destroyedWhileInstantiated closure template =>
    [("closure", .text closure.display), ("template", .text template)]
  | .instantiated closure template =>
    [("closure", .text closure.display), ("template", .text template)]
  | .closureDestroyed closure => [("closure", .text closure.display)]
  | .runFailed template root fault =>
    [("template", .text template), ("root", .text root.display), ("err", .text fault.message)]
  | .ran template root waves =>
    [("template", .text template), ("root", .text root.display), ("waves", .nat waves)]
  | .stale subscription generation =>
    [("subscription", .text subscription.display), ("generation", .nat generation)]
  | .callbackFailed subscription generation fault =>
    [("subscription", .text subscription.display), ("generation", .nat generation),
     ("err", .text fault.message)]
  | .callbackAborted subscription generation discarded fault =>
    [("subscription", .text subscription.display), ("generation", .nat generation),
     ("discarded", .nat discarded), ("err", .text fault.message)]
  | .cycleOverrun limit discarded generation =>
    [("limit", .nat limit), ("discarded", .nat discarded), ("generation", .nat generation)]
  | .drainEnded report overrun =>
    [("start", .nat report.startGeneration), ("end", .nat report.endGeneration),
     ("waves", .nat report.waves), ("callbacks", .nat report.callbacksRun),
     ("stale", .nat report.staleSkipped), ("failures", .nat report.callbackFailures),
     ("overrun", .bool overrun)]
  | .eventRejected tag fault => [("event", .text tag), ("err", .text fault.message)]
  | .eventsApplied applied rejected => [("applied", .nat applied), ("rejected", .nat rejected)]
  | .traced event => [("tag", .text event.tag), ("event", .text event.term.render)]

end LogEvent

/-- One entry of the journal. -/
inductive Occurrence (κ : Type) where
  /-- A log entry. -/
  | logged (event : LogEvent)
  /-- A trace event, whatever the sink in use. -/
  | announced (event : TraceEvent)
  /-- A change reached the subscriptions of a node. -/
  | delivered (node : NodeId) (change : Change)
  /-- An outside event joined the queue. -/
  | queued (event : Event κ)
  /-- The application of an outside event began. -/
  | applying (event : Event κ)
  /-- A wave was taken from the pending set. -/
  | waveTaken (generation : Nat) (wave : List SubscriptionId)
  /-- A callback started. -/
  | started (notification : Notification)
  /-- A callback ended, with its fault if it failed. -/
  | finished (notification : Notification) (fault : Option Fault)
  /-- Host code left a remark. -/
  | remarked (text : String)

/-- Everything that happened, oldest first. -/
abbrev Journal (κ : Type) := Array (Occurrence κ)

end ReactiveKernel
