import ReactiveKernel.Kernel.State

/-!
# New nodes

A new datum may be owned by a closure and a new closure may have a parent; both must be live.
-/

namespace ReactiveKernel.Kernel

variable {κ : Type}

/-- Make a datum. -/
def createNode (k : Kernel κ) (typeName : String) (content : Content) (owner : Option ClosureId) :
    Except Fault (DatumId × Kernel κ) := do
  k.requireHolder owner
  let id : DatumId := ⟨k.counters.datums⟩
  let claimed (s : State κ) : State κ := match owner with
    | none => s
    | some o => s.updateClosure o fun c => { c with owned := c.owned ++ [id] }
  let k := k.mapState fun s =>
    claimed { s with counters := { s.counters with datums := s.counters.datums + 1 } }
  let k := (k.emit (.datumCreated id typeName owner)).log (.datumCreated id typeName)
  return (id, k.mapState fun s => s.putDatum id (.create typeName content owner s.generation))

/-- Make a record. Of a repeated field the last value counts. -/
def createDatum (k : Kernel κ) (typeName : String) (fields : List (String × Value))
    (owner : Option ClosureId) : Except Fault (DatumId × Kernel κ) :=
  k.createNode typeName (.record (.ofEntries fields)) owner

/-- Make a collection. -/
def createCollection (k : Kernel κ) (typeName : String) (items : List Value)
    (owner : Option ClosureId) : Except Fault (DatumId × Kernel κ) :=
  k.createNode typeName (.collection items) owner

/-- Make a closure. -/
def createClosure (k : Kernel κ) (template : String) (parent : Option ClosureId) :
    Except Fault (ClosureId × Kernel κ) := do
  k.requireHolder parent
  let id : ClosureId := ⟨k.counters.closures⟩
  let adopted (s : State κ) : State κ := match parent with
    | none => s
    | some p => s.updateClosure p fun c => { c with children := c.children ++ [id] }
  let k := k.mapState fun s =>
    adopted { s with counters := { s.counters with closures := s.counters.closures + 1 } }
  let k := k.emit (.closureCreated id template parent)
  return (id, k.mapState fun s => s.putClosure id (.create template parent s.generation))

/-- Give a new closure its parameters. This is not a change. -/
def setParams (k : Kernel κ) (id : ClosureId) (params : List (String × Value)) : Kernel κ :=
  k.mapState fun s => s.updateClosure id fun c => { c with fields := c.fields.insertAll params }

end ReactiveKernel.Kernel
