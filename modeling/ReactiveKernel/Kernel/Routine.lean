import ReactiveKernel.Kernel.Destruction
import ReactiveKernel.Kernel.Mutation

/-!
# Requests statement by statement

A routine changes the kernel as it goes along: it takes identities, appends to lists, replaces
records, announces what it does. It may fail at a statement, and then whatever the statements before
have done stays done. The requests that run no host code are routines. That none of them fails half
way is not built in here; it is a fact about the order of their statements.
-/

namespace ReactiveKernel

/-- An operation that changes the kernel as it goes along. What it has done before it fails stays
done. -/
abbrev Routine (κ : Type) (α : Type) := ExceptT Fault (StateM (Kernel κ)) α

variable {κ α : Type}

namespace State

/-- Enter a subscription into the set of its source. -/
def linkSource (s : State κ) (id : SubscriptionId) : NodeId → State κ
  | .datum d => s.updateDatum d fun x => { x with outgoing := x.outgoing.insert id }
  | .closure c => s.updateClosure c fun x => { x with outgoing := x.outgoing.insert id }

/-- Enter a subscription into the set of a closure that is its target. -/
def linkTarget (s : State κ) (id : SubscriptionId) (c : ClosureId) : State κ :=
  s.updateClosure c fun x => { x with incoming := x.incoming.insert id }

end State

namespace Routine

/-- What a routine comes to, and the kernel that it leaves. -/
def exec (r : Routine κ α) (k : Kernel κ) : Except Fault α × Kernel κ := r.run.run k

/-- Look something up in the state, and fail if it is not there. -/
def examine (f : State κ → Except Fault α) : Routine κ α := do
  match f (← get).toState with
  | .ok a => return a
  | .error fault => throw fault

/-- Change the state. -/
def change (f : State κ → State κ) : Routine κ Unit := modify (·.mapState f)

/-- Announce a trace event. -/
def announce (e : TraceEvent) : Routine κ Unit := modify (·.emit e)

/-- Add a log entry. -/
def report (e : LogEvent) : Routine κ Unit := modify (·.log e)

/-! New nodes. -/

/-- Take the next identity of a datum. -/
def takeDatumId : Routine κ DatumId := do
  let id : DatumId := ⟨(← get).counters.datums⟩
  change fun s => { s with counters := { s.counters with datums := s.counters.datums + 1 } }
  return id

/-- Take the next identity of a closure. -/
def takeClosureId : Routine κ ClosureId := do
  let id : ClosureId := ⟨(← get).counters.closures⟩
  change fun s => { s with counters := { s.counters with closures := s.counters.closures + 1 } }
  return id

/-- Make a datum. -/
def createNode (typeName : String) (content : Content) (owner : Option ClosureId) :
    Routine κ DatumId := do
  examine (·.requireHolder owner)
  let id ← takeDatumId
  if let some o := owner then
    change (·.updateClosure o fun c => { c with owned := c.owned ++ [id] })
  announce (.datumCreated id typeName owner)
  report (.datumCreated id typeName)
  change fun s => s.putDatum id (.create typeName content owner s.generation)
  return id

/-- Make a closure. -/
def createClosure (template : String) (parent : Option ClosureId) : Routine κ ClosureId := do
  examine (·.requireHolder parent)
  let id ← takeClosureId
  if let some p := parent then
    change (·.updateClosure p fun c => { c with children := c.children ++ [id] })
  announce (.closureCreated id template parent)
  change fun s => s.putClosure id (.create template parent s.generation)
  return id

/-- Make a closure and give it its parameters. -/
def openInstance (template : String) (parent : Option ClosureId)
    (params : List (String × Value)) : Routine κ ClosureId := do
  let id ← createClosure template parent
  let _ ← examine (·.requireClosure id)
  change (·.updateClosure id fun c => { c with fields := c.fields.insertAll params })
  return id

/-! Subscriptions. -/

/-- Enter a subscription into the set of its source, which must be live. -/
def linkSource (id : SubscriptionId) (source : NodeId) : Routine κ Unit := do
  examine (·.requireNode source)
  change (·.linkSource id source)

/-- Enter a subscription into the set of its target, if that is a closure, which must be live. -/
def linkTarget (id : SubscriptionId) (target : NodeId) : Routine κ Unit := do
  if let .closure c := target then
    examine (·.requireNode (.closure c))
    change (·.linkTarget id c)

/-- Make a subscription. -/
def subscribe (source target : NodeId) (selector : Selector) (code : κ) :
    Routine κ SubscriptionId := do
  let changedAt ← examine (·.setGenerationOf source)
  examine (·.requireNode target)
  let id : SubscriptionId := ⟨(← get).counters.subscriptions⟩
  change fun s =>
    { s with counters := { s.counters with subscriptions := s.counters.subscriptions + 1 } }
  let function : FunctionId := ⟨(← get).counters.functions⟩
  change fun s => { s with counters := { s.counters with functions := s.counters.functions + 1 } }
  linkSource id source
  linkTarget id target
  announce (.subscribed id source target selector)
  change fun s => { s with edges := s.edges.insert id ⟨source, target, selector, function⟩ code }
  modify (·.catchUp id source changedAt)
  return id

/-! Mutations. -/

/-- Write a field of a record. -/
def setDatumField (order : EdgeOrder κ) (id : DatumId) (field : String) (value : Value) :
    Routine κ Bool := do
  let generation := (← get).generation
  let d ← examine (·.requireDatum id)
  let fields ← examine fun _ => d.requireFields id
  let old := (fields[field]?).getD .null
  if old.same value then
    return false
  else
    change (·.updateDatum id fun d => { d with content := .record (fields.insert field value) })
    change (·.updateDatum id (·.touch generation))
    modify (·.announceField (.datum id) field old value)
    modify (·.datumChanged order id (.field field))
    return true

/-- Write a field of a closure. -/
def setClosureField (order : EdgeOrder κ) (id : ClosureId) (field : String) (value : Value) :
    Routine κ Bool := do
  let generation := (← get).generation
  let c ← examine (·.requireClosure id)
  let old := (c.fields[field]?).getD .null
  if old.same value then
    return false
  else
    change (·.updateClosure id fun c => { c with fields := c.fields.insert field value })
    change (·.updateClosure id (·.touch generation))
    modify (·.announceField (.closure id) field old value)
    modify (·.notify order (.closure id) (.field field))
    return true

/-- Write a field. The answer is whether anything changed. -/
def set (order : EdgeOrder κ) (node : NodeId) (field : String) (value : Value) : Routine κ Bool :=
  match node with
  | .datum id => setDatumField order id field value
  | .closure id => setClosureField order id field value

/-- Write the items of a collection and deliver the change. -/
def writeItems (order : EdgeOrder κ) (id : DatumId) (items : List Value) (generation : Nat) :
    Routine κ Unit := do
  change (·.updateDatum id fun d => { d with content := .collection items })
  change (·.updateDatum id (·.touch generation))
  announce (.itemsSet id items.length generation)
  modify (·.datumChanged order id .items)

/-- Replace all items. -/
def setItems (order : EdgeOrder κ) (id : DatumId) (items : List Value) : Routine κ Unit := do
  let generation := (← get).generation
  let d ← examine (·.requireDatum id)
  let _ ← examine fun _ => d.requireItems id
  writeItems order id items generation

/-- Replace one item. The answer is whether anything changed. -/
def setItem (order : EdgeOrder κ) (id : DatumId) (index : Nat) (value : Value) :
    Routine κ Bool := do
  let generation := (← get).generation
  let d ← examine (·.requireDatum id)
  let items ← examine fun _ => d.requireItems id
  match items[index]? with
  | none => throw (.itemIndexOutOfRange id index items.length)
  | some old =>
    if old.same value then
      return false
    else
      writeItems order id (items.set index value) generation
      return true

/-- Append an item. -/
def pushItem (order : EdgeOrder κ) (id : DatumId) (value : Value) : Routine κ Unit := do
  let generation := (← get).generation
  let d ← examine (·.requireDatum id)
  let items ← examine fun _ => d.requireItems id
  writeItems order id (items ++ [value]) generation

/-- Remove one item and return it. -/
def removeItem (order : EdgeOrder κ) (id : DatumId) (index : Nat) : Routine κ Value := do
  let generation := (← get).generation
  let d ← examine (·.requireDatum id)
  let items ← examine fun _ => d.requireItems id
  match items[index]? with
  | none => throw (.itemIndexOutOfRange id index items.length)
  | some removed =>
    writeItems order id (items.eraseIdx index) generation
    return removed

/-- Give a datum a new status. The answer is whether anything changed. -/
def updateStatus (order : EdgeOrder κ) (id : DatumId) (status : Status) : Routine κ Bool := do
  let generation := (← get).generation
  let d ← examine (·.requireDatum id)
  if d.status.same status then
    return false
  else
    change (·.updateDatum id fun d => { d with status })
    change (·.updateDatum id (·.touch generation))
    announce (.availabilitySet id status generation)
    report (.availabilitySet id status.availability)
    modify (·.datumChanged order id .availability)
    return true

/-- Change the availability of a datum. One that is to fail is looked up for its payload first. -/
def setAvailability (order : EdgeOrder κ) (id : DatumId) (a : Availability) : Routine κ Bool := do
  match a with
  | .loading => updateStatus order id .loading
  | .ready => updateStatus order id .ready
  | .error =>
    let d ← examine (·.requireDatum id)
    updateStatus order id (.failed d.status.payload)

/-- Let a datum fail with a payload. -/
def setError (order : EdgeOrder κ) (id : DatumId) (payload : Value) : Routine κ Bool :=
  updateStatus order id (.failed (some payload))

/-! Destruction. -/

/-- Remove several subscriptions. -/
def removeEdges (ids : List SubscriptionId) : Routine κ Unit :=
  ids.forM fun id => modify (·.removeEdge id)

/-- Destroy a datum. -/
def destroyDatum (order : EdgeOrder κ) (id : DatumId) : Routine κ Unit := do
  let d ← examine (·.requireDatum id)
  let k ← get
  let outgoing := k.walk order (.outgoing (.datum id)) d.outgoing
  let targeting := k.walk order (.targeting id) (k.edges.targeting id)
  removeEdges (outgoing ++ targeting)
  if let some owner := d.owner then
    change (·.updateClosure owner fun c => { c with owned := c.owned.filter (· != id) })
  change fun s => { s with datums := s.datums.erase id }
  announce (.datumDestroyed id)
  report (.datumDestroyed id)

/-- Destroy a closure with everything below it. Each level of the tree spends one unit of fuel. -/
def razeClosure (order : EdgeOrder κ) : Nat → ClosureId → Routine κ Unit
  | 0, _ => return
  | fuel + 1, id => do
    let c ← examine (·.requireClosure id)
    let k ← get
    let outgoing := k.walk order (.outgoing (.closure id)) c.outgoing
    let incoming := k.walk order (.incoming id) c.incoming
    change (·.putClosure id { c with outgoing := ∅, incoming := ∅, owned := [], children := [] })
    removeEdges outgoing
    removeEdges incoming
    c.owned.forM fun datum => do
      if (← get).datums.contains datum then destroyDatum order datum
    c.children.forM fun child => do
      if (← get).closures.contains child then razeClosure order fuel child
    if let some p := c.parent then
      change (·.updateClosure p fun c => { c with children := c.children.filter (· != id) })
    change fun s => { s with closures := s.closures.erase id }
    announce (.closureDestroyed id)
    report (.closureDestroyed id)

/-- Destroy a closure with everything below it. -/
def destroyClosure (order : EdgeOrder κ) (id : ClosureId) : Routine κ Unit := do
  razeClosure order ((← get).closures.size + 1) id

end Routine

end ReactiveKernel
