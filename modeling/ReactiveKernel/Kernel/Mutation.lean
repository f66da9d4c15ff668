import ReactiveKernel.Kernel.Notify

/-!
# Mutations

Fields, items and the availability of a datum are changed here. A mutation that writes what is
already there, or that is refused, changes nothing. Every other one counts as one change: it
bumps the revisions, stamps the generation and is delivered to the subscriptions.
-/

namespace ReactiveKernel.Kernel

variable {κ : Type}

/-- Announce an effective write to a field. -/
def announceField (k : Kernel κ) (node : NodeId) (field : String) (old new : Value) : Kernel κ :=
  (k.emit (.fieldSet node field old new k.generation)).log (.fieldSet node field k.generation)

/-- Write a field of a record. -/
def setDatumField (k : Kernel κ) (order : EdgeOrder κ) (id : DatumId) (field : String)
    (value : Value) : Except Fault (Bool × Kernel κ) := do
  let d ← k.requireDatum id
  let fields ← d.requireFields id
  let old := (fields[field]?).getD .null
  if old.same value then
    return (false, k)
  else
    let changed := { d with content := .record (fields.insert field value) }
    let k := k.mapState (·.putDatum id (changed.touch k.generation))
    return (true,
      (k.announceField (.datum id) field old value).datumChanged order id (.field field))

/-- Write a field of a closure. -/
def setClosureField (k : Kernel κ) (order : EdgeOrder κ) (id : ClosureId) (field : String)
    (value : Value) : Except Fault (Bool × Kernel κ) := do
  let c ← k.requireClosure id
  let old := (c.fields[field]?).getD .null
  if old.same value then
    return (false, k)
  else
    let changed := { c with fields := c.fields.insert field value }
    let k := k.mapState (·.putClosure id (changed.touch k.generation))
    return (true,
      (k.announceField (.closure id) field old value).notify order (.closure id) (.field field))

/-- Write a field. The answer is whether anything changed. -/
def set (k : Kernel κ) (order : EdgeOrder κ) (node : NodeId) (field : String) (value : Value) :
    Except Fault (Bool × Kernel κ) :=
  match node with
  | .datum id => k.setDatumField order id field value
  | .closure id => k.setClosureField order id field value

/-- Give a live collection a new list of items. -/
def replaceItems (k : Kernel κ) (order : EdgeOrder κ) (id : DatumId) (d : Datum)
    (items : List Value) : Kernel κ :=
  let changed := { d with content := .collection items }
  let k := k.mapState (·.putDatum id (changed.touch k.generation))
  (k.emit (.itemsSet id items.length k.generation)).datumChanged order id .items

/-- Replace all items. This always counts as a change. -/
def setItems (k : Kernel κ) (order : EdgeOrder κ) (id : DatumId) (items : List Value) :
    Except Fault (Unit × Kernel κ) := do
  let d ← k.requireDatum id
  let _ ← d.requireItems id
  return ((), k.replaceItems order id d items)

/-- Replace one item. The answer is whether anything changed. -/
def setItem (k : Kernel κ) (order : EdgeOrder κ) (id : DatumId) (index : Nat) (value : Value) :
    Except Fault (Bool × Kernel κ) := do
  let d ← k.requireDatum id
  let items ← d.requireItems id
  match items[index]? with
  | none => throw (.itemIndexOutOfRange id index items.length)
  | some old =>
    if old.same value then return (false, k)
    else return (true, k.replaceItems order id d (items.set index value))

/-- Append an item. -/
def pushItem (k : Kernel κ) (order : EdgeOrder κ) (id : DatumId) (value : Value) :
    Except Fault (Unit × Kernel κ) := do
  let d ← k.requireDatum id
  let items ← d.requireItems id
  return ((), k.replaceItems order id d (items ++ [value]))

/-- Remove one item and return it. -/
def removeItem (k : Kernel κ) (order : EdgeOrder κ) (id : DatumId) (index : Nat) :
    Except Fault (Value × Kernel κ) := do
  let d ← k.requireDatum id
  let items ← d.requireItems id
  match items[index]? with
  | none => throw (.itemIndexOutOfRange id index items.length)
  | some removed => return (removed, k.replaceItems order id d (items.eraseIdx index))

/-- Give a live datum a new status. The answer is whether anything changed. -/
def updateStatus (k : Kernel κ) (order : EdgeOrder κ) (id : DatumId) (d : Datum)
    (status : Status) : Bool × Kernel κ :=
  if d.status.same status then (false, k)
  else
    let changed := { d with status }
    let k := k.mapState (·.putDatum id (changed.touch k.generation))
    let k := (k.emit (.availabilitySet id status k.generation)).log
      (.availabilitySet id status.availability)
    (true, k.datumChanged order id .availability)

/-- Change the availability of a datum. A failed datum that is to fail again keeps its payload,
and any other status drops it. -/
def setAvailability (k : Kernel κ) (order : EdgeOrder κ) (id : DatumId) (a : Availability) :
    Except Fault (Bool × Kernel κ) := do
  let d ← k.requireDatum id
  return k.updateStatus order id d (d.status.withAvailability a)

/-- Let a datum fail with a payload. -/
def setError (k : Kernel κ) (order : EdgeOrder κ) (id : DatumId) (payload : Value) :
    Except Fault (Bool × Kernel κ) := do
  let d ← k.requireDatum id
  return k.updateStatus order id d (.failed (some payload))

end ReactiveKernel.Kernel
