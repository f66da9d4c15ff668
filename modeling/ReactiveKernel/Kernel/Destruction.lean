import ReactiveKernel.Kernel.Subscribing

/-!
# Destruction

A node goes together with every subscription that starts or ends at it; a closure also takes
along the datums that it owns and the closures below it. Subscriptions go first, so that none
ever refers to a node that is gone.
-/

namespace ReactiveKernel.Kernel

variable {κ : Type}

/-- Remove a datum if it is live. -/
def razeDatum (k : Kernel κ) (order : EdgeOrder κ) (id : DatumId) : Kernel κ :=
  match k.datums[id]? with
  | none => k
  | some d =>
    let severed := k.walk order (.outgoing (.datum id)) d.outgoing ++
      k.walk order (.targeting id) (k.edges.targeting id)
    let disowned (s : State κ) : State κ := match d.owner with
      | none => s
      | some owner => s.updateClosure owner fun c => { c with owned := c.owned.filter (· != id) }
    let k := (k.removeEdges severed).mapState fun s =>
      let s := disowned s
      { s with datums := s.datums.erase id }
    (k.emit (.datumDestroyed id)).log (.datumDestroyed id)

/-- Destroy a datum. -/
def destroyDatum (k : Kernel κ) (order : EdgeOrder κ) (id : DatumId) :
    Except Fault (Unit × Kernel κ) := do
  let _ ← k.requireDatum id
  return ((), k.razeDatum order id)

/-- Drop the record of a closure and its place below its parent. -/
def dropClosure (k : Kernel κ) (id : ClosureId) (parent : Option ClosureId) : Kernel κ :=
  let orphaned (s : State κ) : State κ := match parent with
    | none => s
    | some p => s.updateClosure p fun c => { c with children := c.children.filter (· != id) }
  let k := k.mapState fun s =>
    let s := orphaned s
    { s with closures := s.closures.erase id }
  (k.emit (.closureDestroyed id)).log (.closureDestroyed id)

/-- Remove a closure with everything below it, if it is live. Each level of the tree spends one
unit of fuel. -/
def razeClosure (order : EdgeOrder κ) : Nat → Kernel κ → ClosureId → Kernel κ
  | 0, k, _ => k
  | fuel + 1, k, id =>
    match k.closures[id]? with
    | none => k
    | some c =>
      let outgoing := k.walk order (.outgoing (.closure id)) c.outgoing
      let incoming := k.walk order (.incoming id) c.incoming
      let k := k.mapState (·.putClosure id
        { c with outgoing := ∅, incoming := ∅, owned := [], children := [] })
      let k := (k.removeEdges outgoing).removeEdges incoming
      let k := c.owned.foldl (fun k d => k.razeDatum order d) k
      let k := c.children.foldl (razeClosure order fuel) k
      k.dropClosure id c.parent

/-- Remove a closure with everything below it, if it is live. A path in the tree of instances is
no longer than their number. -/
def raze (k : Kernel κ) (order : EdgeOrder κ) (id : ClosureId) : Kernel κ :=
  razeClosure order (k.closures.size + 1) k id

/-- Destroy a closure with everything below it. -/
def destroyClosure (k : Kernel κ) (order : EdgeOrder κ) (id : ClosureId) :
    Except Fault (Unit × Kernel κ) := do
  let _ ← k.requireClosure id
  return ((), k.raze order id)

end ReactiveKernel.Kernel
