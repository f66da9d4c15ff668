import ReactiveKernel.Interchange

/-!
# Trace events

The kernel announces every step of its life as a trace event. A recording keeps the events in
order and can be written with one JSON object on each line.
-/

namespace ReactiveKernel

/-- One step in the life of a kernel. -/
inductive TraceEvent where
  | datumCreated (datum : DatumId) (typeName : String) (owner : Option ClosureId)
  | datumDestroyed (datum : DatumId)
  | closureCreated (closure : ClosureId) (template : String) (parent : Option ClosureId)
  | closureInstantiated (closure : ClosureId) (template : String)
  | closureDestroyed (closure : ClosureId)
  | fieldSet (node : NodeId) (field : String) (old new : Value) (generation : Nat)
  | itemsSet (datum : DatumId) (length : Nat) (generation : Nat)
  | availabilitySet (datum : DatumId) (status : Status) (generation : Nat)
  | subscribed (subscription : SubscriptionId) (source target : NodeId) (selector : Selector)
  | unsubscribed (subscription : SubscriptionId)
  | notified (subscription : SubscriptionId) (generation : Nat)
  | drainStarted (generation pending : Nat)
  | generationDrained (generation callbacks : Nat)
  | drainFinished (generation waves : Nat) (overrun : Bool)

namespace TraceEvent

/-- Name of a kind of event in data. -/
def tag : TraceEvent → String
  | .datumCreated .. => "datum_created"
  | .datumDestroyed .. => "datum_destroyed"
  | .closureCreated .. => "closure_created"
  | .closureInstantiated .. => "closure_instantiated"
  | .closureDestroyed .. => "closure_destroyed"
  | .fieldSet .. => "field_set"
  | .itemsSet .. => "items_set"
  | .availabilitySet .. => "availability_set"
  | .subscribed .. => "subscribed"
  | .unsubscribed .. => "unsubscribed"
  | .notified .. => "notified"
  | .drainStarted .. => "drain_started"
  | .generationDrained .. => "generation_drained"
  | .drainFinished .. => "drain_finished"

/-- Name of an event's case. -/
def caseName : TraceEvent → String
  | .datumCreated .. => "DatumCreated"
  | .datumDestroyed .. => "DatumDestroyed"
  | .closureCreated .. => "ClosureCreated"
  | .closureInstantiated .. => "ClosureInstantiated"
  | .closureDestroyed .. => "ClosureDestroyed"
  | .fieldSet .. => "FieldSet"
  | .itemsSet .. => "ItemsSet"
  | .availabilitySet .. => "AvailabilitySet"
  | .subscribed .. => "Subscribed"
  | .unsubscribed .. => "Unsubscribed"
  | .notified .. => "Notified"
  | .drainStarted .. => "DrainStarted"
  | .generationDrained .. => "GenerationDrained"
  | .drainFinished .. => "DrainFinished"

/-- The subscription that an event removes. -/
def removedSubscription? : TraceEvent → Option SubscriptionId
  | .unsubscribed id => some id
  | _ => none

/-- The details of an event as members of an object. -/
def members : TraceEvent → List (String × Json)
  | .datumCreated datum typeName owner =>
    [("datum", datum.toJson), ("type_name", .text typeName),
     ("owner", .option (owner.map ClosureId.toJson))]
  | .datumDestroyed datum => [("datum", datum.toJson)]
  | .closureCreated closure template parent =>
    [("closure", closure.toJson), ("template", .text template),
     ("parent", .option (parent.map ClosureId.toJson))]
  | .closureInstantiated closure template =>
    [("closure", closure.toJson), ("template", .text template)]
  | .closureDestroyed closure => [("closure", closure.toJson)]
  | .fieldSet node field old new generation =>
    [("node", node.toJson), ("field", .text field), ("old", old.toJson), ("new", new.toJson),
     ("generation", .nat generation)]
  | .itemsSet datum length generation =>
    [("datum", datum.toJson), ("len", .nat length), ("generation", .nat generation)]
  | .availabilitySet datum status generation =>
    [("datum", datum.toJson), ("availability", status.availability.toJson)] ++
      (status.payload.map fun v => ("error", v.toJson)).toList ++
      [("generation", .nat generation)]
  | .subscribed subscription source target selector =>
    [("subscription", subscription.toJson), ("source", source.toJson),
     ("target", target.toJson), ("selector", selector.toJson)]
  | .unsubscribed subscription => [("subscription", subscription.toJson)]
  | .notified subscription generation =>
    [("subscription", subscription.toJson), ("generation", .nat generation)]
  | .drainStarted generation pending =>
    [("generation", .nat generation), ("pending", .nat pending)]
  | .generationDrained generation callbacks =>
    [("generation", .nat generation), ("callbacks", .nat callbacks)]
  | .drainFinished generation waves overrun =>
    [("generation", .nat generation), ("waves", .nat waves), ("overrun", .bool overrun)]

/-- An event as an object that starts with the name of its case in small letters. -/
def toJson (e : TraceEvent) : Json :=
  .object (("event", .text (Text.snakeCase e.caseName)) :: e.members)

/-- The details of an event in constructor notation. -/
def fields : TraceEvent → List (String × Text.Term)
  | .datumCreated datum typeName owner =>
    [("datum", datum.term), ("type_name", .text typeName),
      ("owner", .option (owner.map ClosureId.term))]
  | .datumDestroyed datum => [("datum", datum.term)]
  | .closureCreated closure template parent =>
    [("closure", closure.term), ("template", .text template),
      ("parent", .option (parent.map ClosureId.term))]
  | .closureInstantiated closure template =>
    [("closure", closure.term), ("template", .text template)]
  | .closureDestroyed closure => [("closure", closure.term)]
  | .fieldSet node field old new generation =>
    [("node", node.term), ("field", .text field), ("old", old.term),
      ("new", new.term), ("generation", .nat generation)]
  | .itemsSet datum length generation =>
    [("datum", datum.term), ("len", .nat length),
      ("generation", .nat generation)]
  | .availabilitySet datum status generation =>
    [("datum", datum.term), ("availability", status.availability.term),
      ("error", .option (status.payload.map Value.term)), ("generation", .nat generation)]
  | .subscribed subscription source target selector =>
    [("subscription", subscription.term), ("source", source.term),
      ("target", target.term), ("selector", selector.term)]
  | .unsubscribed subscription =>
    [("subscription", subscription.term)]
  | .notified subscription generation =>
    [("subscription", subscription.term), ("generation", .nat generation)]
  | .drainStarted generation pending =>
    [("generation", .nat generation), ("pending", .nat pending)]
  | .generationDrained generation callbacks =>
    [("generation", .nat generation), ("callbacks", .nat callbacks)]
  | .drainFinished generation waves overrun =>
    [("generation", .nat generation), ("waves", .nat waves),
      ("overrun", .bool overrun)]

/-- An event in constructor notation. -/
def term (e : TraceEvent) : Text.Term := .record e.caseName e.fields false

/-- Events with one JSON object on each line. -/
def jsonLines (events : List TraceEvent) : List Char :=
  events.flatMap fun e => e.toJson.chars ++ ['\n']

end TraceEvent

/-- Where trace events go. -/
inductive Sink where
  /-- Into a recording, by its place among the recordings. -/
  | recording (index : Nat)
  /-- Into the log. -/
  | log
  deriving DecidableEq

/-- The sink in use and all recordings ever made. A recording stays readable when it is no longer
in use. -/
structure Tracer where
  /-- The sink in use. -/
  sink : Option Sink
  /-- All recordings, each with its events in order. -/
  recordings : Array (Array TraceEvent)

namespace Tracer

/-- No sink and no recordings. -/
def initial : Tracer := ⟨none, #[]⟩

/-- The tracer after an event. -/
def record (t : Tracer) (e : TraceEvent) : Tracer :=
  { t with
    recordings := match t.sink with
      | some (.recording index) => t.recordings.modify index (·.push e)
      | _ => t.recordings }

/-- Whether events go into the log. -/
def logs (t : Tracer) : Bool := t.sink == some .log

/-- The events of a recording. -/
def events (t : Tracer) (index : Nat) : List TraceEvent :=
  ((t.recordings[index]?).getD #[]).toList

/-- A tracer in constructor notation. -/
def term (t : Tracer) : Text.Term :=
  .record "Tracer" [("enabled", .bool t.sink.isSome)] false

end Tracer

end ReactiveKernel
