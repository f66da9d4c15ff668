import ReactiveKernel.Fault

/-!
# Datums

A datum is a reactive cell: a record of named fields or an ordered collection of items, never
both. It knows its owner and the subscriptions that start at it.
-/

namespace ReactiveKernel

/-- What a datum holds. -/
inductive Content where
  | record (fields : FieldMap)
  | collection (items : List Value)

namespace Content

/-- The kind of datum that has this content. -/
def shape : Content → Shape
  | .record _ => .record
  | .collection _ => .collection

end Content

/-- A live datum. -/
structure Datum where
  /-- Name of its type, for readers only. -/
  typeName : String
  /-- Its revision counters. -/
  revisions : Revisions
  /-- Generation of its last change; creation counts as one. -/
  setGeneration : Nat
  /-- Its availability. -/
  status : Status
  /-- The closure that it is destroyed with. -/
  owner : Option ClosureId
  /-- Its fields or items. -/
  content : Content
  /-- The subscriptions whose source it is. -/
  outgoing : SubscriptionSet

namespace Datum

/-- A new datum. -/
def create (typeName : String) (content : Content) (owner : Option ClosureId)
    (generation : Nat) : Datum :=
  { typeName, content, owner
    revisions := .initial
    setGeneration := generation
    status := .ready
    outgoing := ∅ }

/-- The datum after an effective change. -/
def touch (d : Datum) (generation : Nat) : Datum :=
  { d with revisions := d.revisions.bumpStructural, setGeneration := generation }

/-- The fields of a record. -/
def requireFields (d : Datum) (id : DatumId) : Except Fault FieldMap :=
  match d.content with
  | .record fields => .ok fields
  | .collection _ => .error (.shapeMismatch id .record .collection)

/-- The items of a collection. -/
def requireItems (d : Datum) (id : DatumId) : Except Fault (List Value) :=
  match d.content with
  | .collection items => .ok items
  | .record _ => .error (.shapeMismatch id .collection .record)

end Datum

end ReactiveKernel
