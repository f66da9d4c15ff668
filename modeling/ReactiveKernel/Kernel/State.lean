import ReactiveKernel.Journal
import ReactiveKernel.Node.Closure
import ReactiveKernel.Node.Datum
import ReactiveKernel.Template

/-!
# The state of a kernel

A `State` holds the live nodes, the edges between them, the schedule, the templates and the
queue of outside events. A `Kernel` is a state together with its instruments: the tracer and
the journal. Nothing in the state depends on the instruments.
-/

namespace ReactiveKernel

/-- The tables of a kernel. -/
structure State (κ : Type) where
  /-- Settings, fixed at creation. -/
  settings : Settings
  /-- The next identities. -/
  counters : Counters
  /-- Live datums. -/
  datums : Std.ExtTreeMap DatumId Datum
  /-- Live closures. -/
  closures : Std.ExtTreeMap ClosureId Closure
  /-- Live subscriptions. -/
  edges : EdgeTable κ
  /-- Pending notifications. -/
  schedule : Schedule
  /-- Known templates. -/
  templates : TemplateLibrary κ
  /-- Outside events that wait to be applied, oldest first. -/
  inbox : List (Event κ)

/-- A state with its instruments. -/
structure Kernel (κ : Type) extends State κ where
  /-- Where trace events go. -/
  tracer : Tracer
  /-- What happened so far. -/
  journal : Journal κ

variable {κ : Type}

namespace State

/-- The state of a new kernel. -/
def initial (settings : Settings) (templates : TemplateLibrary κ) : State κ :=
  { settings, templates
    counters := {}
    datums := ∅
    closures := ∅
    edges := .empty
    schedule := .initial
    inbox := [] }

/-- The generation of the last wave. -/
def generation (s : State κ) : Nat := s.schedule.generation

/-- Whether a node is live. -/
def contains (s : State κ) : NodeId → Bool
  | .datum id => s.datums.contains id
  | .closure id => s.closures.contains id

/-- A datum, which must be live. -/
def requireDatum (s : State κ) (id : DatumId) : Except Fault Datum :=
  match s.datums[id]? with
  | some d => .ok d
  | none => .error (.unknownDatum id)

/-- A closure, which must be live. -/
def requireClosure (s : State κ) (id : ClosureId) : Except Fault Closure :=
  match s.closures[id]? with
  | some c => .ok c
  | none => .error (.unknownClosure id)

/-- Check a closure that a new node is to be attached to, if there is one. -/
def requireHolder (s : State κ) : Option ClosureId → Except Fault Unit
  | none => .ok ()
  | some id => (s.requireClosure id).map fun _ => ()

/-- Check that a node is live. -/
def requireNode (s : State κ) (node : NodeId) : Except Fault Unit :=
  if s.contains node then .ok () else .error (.unknownNode node)

/-- The fields of a live record or closure. -/
def fieldsOf (s : State κ) : NodeId → Except Fault FieldMap
  | .datum id => do (← s.requireDatum id).requireFields id
  | .closure id => do return (← s.requireClosure id).fields

/-- The value of a field, if the field is present. -/
def field? (s : State κ) (node : NodeId) (name : String) : Except Fault (Option Value) := do
  return (← s.fieldsOf node)[name]?

/-- The value of a field; an absent one is null. -/
def get (s : State κ) (node : NodeId) (name : String) : Except Fault Value := do
  return (← s.field? node name).getD .null

/-- The items of a live collection. -/
def itemsOf (s : State κ) (id : DatumId) : Except Fault (List Value) := do
  (← s.requireDatum id).requireItems id

/-- The revision counters of a live node. -/
def revisionsOf (s : State κ) : NodeId → Except Fault Revisions
  | .datum id => do return (← s.requireDatum id).revisions
  | .closure id => do return (← s.requireClosure id).revisions

/-- The generation of the last change of a live node. -/
def setGenerationOf (s : State κ) : NodeId → Except Fault Nat
  | .datum id => do return (← s.requireDatum id).setGeneration
  | .closure id => do return (← s.requireClosure id).setGeneration

/-- The subscriptions whose source is a node. -/
def outgoing (s : State κ) : NodeId → SubscriptionSet
  | .datum id => ((s.datums[id]?).map Datum.outgoing).getD ∅
  | .closure id => ((s.closures[id]?).map Closure.outgoing).getD ∅

/-- The subscriptions whose source is a live node. -/
def subscriptionsOf (s : State κ) (node : NodeId) : Except Fault SubscriptionSet := do
  s.requireNode node
  return s.outgoing node

/-- The closures without a parent. -/
def roots (s : State κ) : List ClosureId :=
  (s.closures.toList.filter fun (_, c) => c.parent.isNone).map (·.1)

/-- Replace the record of a datum. -/
def putDatum (s : State κ) (id : DatumId) (d : Datum) : State κ :=
  { s with datums := s.datums.insert id d }

/-- Replace the record of a closure. -/
def putClosure (s : State κ) (id : ClosureId) (c : Closure) : State κ :=
  { s with closures := s.closures.insert id c }

/-- Change the record of a closure, if it is live. -/
def updateClosure (s : State κ) (id : ClosureId) (f : Closure → Closure) : State κ :=
  match s.closures[id]? with
  | some c => s.putClosure id (f c)
  | none => s

/-- Change the record of a datum, if it is live. -/
def updateDatum (s : State κ) (id : DatumId) (f : Datum → Datum) : State κ :=
  match s.datums[id]? with
  | some d => s.putDatum id (f d)
  | none => s

end State

/-- A set of subscriptions at a node, as it is walked by an operation. -/
inductive EdgeSite where
  /-- Those whose source is the node. -/
  | outgoing (node : NodeId)
  /-- Those whose target is the closure. -/
  | incoming (closure : ClosureId)
  /-- Those whose target is the datum. -/
  | targeting (datum : DatumId)
  deriving DecidableEq

/-- The order in which sets of subscriptions are walked. -/
structure EdgeOrder (κ : Type) where
  /-- Arrange the members of a set, given in ascending order. -/
  arrange : State κ → EdgeSite → List SubscriptionId → List SubscriptionId
  /-- Every member is walked exactly once. -/
  perm : ∀ s site ids, (arrange s site ids).Perm ids

/-- Walk every set in ascending order. -/
def EdgeOrder.ascending : EdgeOrder κ := ⟨fun _ _ ids => ids, fun _ _ ids => List.Perm.refl ids⟩

namespace Kernel

/-- Change the state and leave the instruments alone. -/
def mapState (k : Kernel κ) (f : State κ → State κ) : Kernel κ := { k with toState := f k.toState }

/-- Add an entry to the journal. -/
def note (k : Kernel κ) (o : Occurrence κ) : Kernel κ := { k with journal := k.journal.push o }

/-- Add a log entry. -/
def log (k : Kernel κ) (e : LogEvent) : Kernel κ := k.note (.logged e)

/-- Announce a trace event, in the journal and to the sink in use. -/
def emit (k : Kernel κ) (e : TraceEvent) : Kernel κ :=
  let journal := k.journal.push (.announced e)
  { k with
    tracer := k.tracer.record e
    journal := if k.tracer.logs then journal.push (.logged (.traced e)) else journal }

/-- A new kernel. -/
def create (settings : Settings) (templates : TemplateLibrary κ) : Kernel κ :=
  Kernel.log
    { State.initial settings templates with tracer := .initial, journal := #[] }
    (.kernelCreated templates.size settings)

/-- The members of a set of subscriptions in the order of walking. -/
def walk (k : Kernel κ) (order : EdgeOrder κ) (site : EdgeSite) (ids : SubscriptionSet) :
    List SubscriptionId :=
  order.arrange k.toState site ids.toList

/-! The queue of outside events and the library of templates. -/

/-- Put an event at the end of the queue. -/
def putEvent (k : Kernel κ) (event : Event κ) : Kernel κ :=
  (k.mapState fun s => { s with inbox := s.inbox ++ [event] }).note (.queued event)

/-- Take the whole queue. -/
def takeEvents (k : Kernel κ) : List (Event κ) × Kernel κ :=
  (k.inbox, k.mapState fun s => { s with inbox := [] })

/-- Add or replace a template; the answer is the replaced one. -/
def register (k : Kernel κ) (name : String) (template : Template κ) :
    Option (Template κ) × Kernel κ :=
  (k.templates.get? name,
    k.mapState fun s => { s with templates := s.templates.insert name template })

@[simp] theorem toState_mapState (k : Kernel κ) (f : State κ → State κ) :
    (k.mapState f).toState = f k.toState := rfl

@[simp] theorem toState_note (k : Kernel κ) (o : Occurrence κ) :
    (k.note o).toState = k.toState := rfl

@[simp] theorem toState_log (k : Kernel κ) (e : LogEvent) : (k.log e).toState = k.toState := rfl

@[simp] theorem toState_emit (k : Kernel κ) (e : TraceEvent) : (k.emit e).toState = k.toState := rfl

end Kernel

end ReactiveKernel
