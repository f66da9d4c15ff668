import ReactiveKernel.Kernel.Creation
import ReactiveKernel.Kernel.Routine

/-!
# Programs of host code

Callbacks, bindings and invoked events are host code. A program looks at the state, gives
commands, makes calls and uses the instruments; what it does next may depend on every answer.
A command is done at once. A call may run further host code before it returns.
-/

namespace ReactiveKernel

variable {κ : Type}

/-- A request that runs no host code. -/
inductive Command (κ : Type) where
  | createDatum (typeName : String) (fields : List (String × Value)) (owner : Option ClosureId)
  | createCollection (typeName : String) (items : List Value) (owner : Option ClosureId)
  | createClosure (template : String) (parent : Option ClosureId)
  | subscribe (source target : NodeId) (selector : Selector) (code : κ)
  | unsubscribe (id : SubscriptionId)
  | set (node : NodeId) (field : String) (value : Value)
  | setItems (id : DatumId) (items : List Value)
  | setItem (id : DatumId) (index : Nat) (value : Value)
  | pushItem (id : DatumId) (value : Value)
  | removeItem (id : DatumId) (index : Nat)
  | setAvailability (id : DatumId) (a : Availability)
  | setError (id : DatumId) (payload : Value)
  | destroyDatum (id : DatumId)
  | destroyClosure (id : ClosureId)
  /-- Put an event at the end of the queue. -/
  | putEvent (event : Event κ)
  /-- Add or replace a template; the answer is the replaced one. -/
  | register (name : String) (template : Template κ)

namespace Command

/-- The answer to a command. -/
def Reply : Command κ → Type
  | .createDatum .. | .createCollection .. => DatumId
  | .createClosure .. => ClosureId
  | .subscribe .. => SubscriptionId
  | .unsubscribe _ | .set .. | .setItem .. | .setAvailability .. | .setError .. => Bool
  | .removeItem .. => Value
  | .setItems .. | .pushItem .. | .destroyDatum _ | .destroyClosure _ | .putEvent _ => Unit
  | .register .. => Option (Template κ)

/-- The statements of a command. -/
def routine (order : EdgeOrder κ) : (c : Command κ) → Routine κ c.Reply
  | .createDatum typeName fields owner =>
    Routine.createNode typeName (.record (.ofEntries fields)) owner
  | .createCollection typeName items owner => Routine.createNode typeName (.collection items) owner
  | .createClosure template parent => Routine.createClosure template parent
  | .subscribe source target selector code => Routine.subscribe source target selector code
  | .unsubscribe id => modifyGet fun k => k.unsubscribe id
  | .set node field value => Routine.set order node field value
  | .setItems id items => Routine.setItems order id items
  | .setItem id index value => Routine.setItem order id index value
  | .pushItem id value => Routine.pushItem order id value
  | .removeItem id index => Routine.removeItem order id index
  | .setAvailability id a => Routine.setAvailability order id a
  | .setError id payload => Routine.setError order id payload
  | .destroyDatum id => Routine.destroyDatum order id
  | .destroyClosure id => Routine.destroyClosure order id
  | .putEvent event => modify (·.putEvent event)
  | .register name template => modifyGet fun k => k.register name template

/-- Do a command, statement by statement. -/
def perform (order : EdgeOrder κ) (c : Command κ) (k : Kernel κ) :
    Except Fault c.Reply × Kernel κ :=
  (c.routine order).exec k

/-- A command as a transaction: what it makes of a kernel if it is not refused. -/
def attempt (order : EdgeOrder κ) (k : Kernel κ) :
    (c : Command κ) → Except Fault (c.Reply × Kernel κ)
  | .createDatum typeName fields owner => k.createDatum typeName fields owner
  | .createCollection typeName items owner => k.createCollection typeName items owner
  | .createClosure template parent => k.createClosure template parent
  | .subscribe source target selector code => k.subscribe source target selector code
  | .unsubscribe id => .ok (k.unsubscribe id)
  | .set node field value => k.set order node field value
  | .setItems id items => k.setItems order id items
  | .setItem id index value => k.setItem order id index value
  | .pushItem id value => k.pushItem order id value
  | .removeItem id index => k.removeItem order id index
  | .setAvailability id a => k.setAvailability order id a
  | .setError id payload => k.setError order id payload
  | .destroyDatum id => k.destroyDatum order id
  | .destroyClosure id => k.destroyClosure order id
  | .putEvent event => .ok ((), k.putEvent event)
  | .register name template => .ok (k.register name template)

end Command

/-- A request to the instruments. -/
inductive Probe where
  /-- Look at the tracer. -/
  | tracer
  /-- Start an empty recording; the answer is its place. -/
  | newRecording
  /-- Empty a recording. -/
  | clearRecording (index : Nat)
  /-- Send trace events to a sink. -/
  | install (sink : Sink)
  /-- Send trace events nowhere; the answer is whether there was a sink. -/
  | removeSink
  /-- Leave a remark in the journal. -/
  | remark (text : String)

namespace Probe

/-- The answer to a request to the instruments. -/
def Reply : Probe → Type
  | .tracer => Tracer
  | .newRecording => Nat
  | .removeSink => Bool
  | .clearRecording _ | .install _ | .remark _ => Unit

/-- Do a request to the instruments. The state is not touched. -/
def perform (k : Kernel κ) : (p : Probe) → p.Reply × Kernel κ
  | .tracer => (k.tracer, k)
  | .newRecording =>
    (k.tracer.recordings.size,
      { k with tracer := { k.tracer with recordings := k.tracer.recordings.push #[] } })
  | .clearRecording index =>
    ((), { k with tracer := { k.tracer with
      recordings := k.tracer.recordings.modify index fun _ => #[] } })
  | .install sink => ((), { k with tracer := { k.tracer with sink := some sink } })
  | .removeSink => (k.tracer.sink.isSome, { k with tracer := { k.tracer with sink := none } })
  | .remark text => ((), k.note (.remarked text))

end Probe

/-- A request that may run host code. -/
inductive Call where
  /-- Make an instance of a template. -/
  | instantiate (template : String) (parent : Option ClosureId) (params : List (String × Value))
  /-- Make the child of a call site. -/
  | callSite (parent : ClosureId) (index : Nat)
  /-- Make an instance of a named template, or of the entry template, and drain. -/
  | run (template : Option String)
  /-- Run waves until nothing is pending. -/
  | drain
  /-- Apply the waiting events and drain. -/
  | drainEvents

/-- The answer to a call. -/
def Call.Reply : Call → Type
  | .instantiate .. | .callSite .. | .run _ => ClosureId
  | .drain | .drainEvents => DrainReport

/-- Host code as a tree of requests. -/
inductive Program (κ : Type) (α : Type) where
  | pure (a : α)
  /-- Look at the state. -/
  | inspect (next : State κ → Program κ α)
  /-- Use the instruments. -/
  | probe (p : Probe) (next : p.Reply → Program κ α)
  /-- Give a command. -/
  | command (c : Command κ) (next : Except Fault c.Reply → Program κ α)
  /-- Make a call. -/
  | call (c : Call) (next : Except Fault c.Reply → Program κ α)

namespace Program

variable {α β : Type}

/-- One program after another. -/
def bind : Program κ α → (α → Program κ β) → Program κ β
  | .pure a, f => f a
  | .inspect next, f => .inspect fun s => (next s).bind f
  | .probe p next, f => .probe p fun r => (next r).bind f
  | .command c next, f => .command c fun r => (next r).bind f
  | .call c next, f => .call c fun r => (next r).bind f

/-- Nothing is changed by a second program that does nothing. -/
@[simp] theorem bind_pure (p : Program κ α) : p.bind .pure = p := by
  induction p with
  | pure a => rfl
  | inspect next ih => simp only [bind, ih]
  | probe p next ih => simp only [bind, ih]
  | command c next ih => simp only [bind, ih]
  | call c next ih => simp only [bind, ih]

instance : Monad (Program κ) where
  pure := .pure
  bind := .bind

/-- Run a program. Calls are left to the one that is given. -/
def exec (order : EdgeOrder κ)
    (call : (c : Call) → Kernel κ → Option (Except Fault c.Reply × Kernel κ)) :
    Program κ α → Kernel κ → Option (α × Kernel κ)
  | .pure a, k => some (a, k)
  | .inspect next, k => (next k.toState).exec order call k
  | .probe p next, k =>
    let (reply, k) := p.perform k
    (next reply).exec order call k
  | .command c next, k =>
    let (reply, k) := c.perform order k
    (next reply).exec order call k
  | .call c next, k =>
    match call c k with
    | none => none
    | some (reply, k) => (next reply).exec order call k

end Program

/-- Why host code is run. -/
inductive Occasion where
  /-- A callback is notified. -/
  | notified (notification : Notification)
  /-- A new closure is wired. -/
  | instantiated (closure : ClosureId)
  /-- A new child is wired to its parent. -/
  | attached (parent child : ClosureId)
  /-- An event invokes code. -/
  | invoked
  deriving DecidableEq

/-- What the kernel needs to know of its host. -/
structure Host (κ : Type) where
  /-- The program that a piece of host code runs on an occasion. -/
  behave : κ → Occasion → Program κ (Except Fault Unit)
  /-- The order in which sets of subscriptions are walked. -/
  order : EdgeOrder κ := .ascending

end ReactiveKernel
