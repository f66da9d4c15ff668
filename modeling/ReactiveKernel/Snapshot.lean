import ReactiveKernel.Kernel.State

/-!
# Snapshots

A snapshot is a copy of every live node as readers see it: contents, links and revisions, but
no subscriptions. Its JSON text lists datums and closures in ascending order of identity.
-/

namespace ReactiveKernel

/-- A datum as readers see it. -/
structure DatumSnapshot where
  /-- Name of its type. -/
  typeName : String
  /-- Its fields or items. -/
  content : Content
  /-- Its availability. -/
  availability : Availability
  /-- Its error payload. -/
  error : Option Value
  /-- The closure that owns it. -/
  owner : Option ClosureId
  /-- Its revision counters. -/
  revisions : Revisions

/-- A closure as readers see it. -/
structure ClosureSnapshot where
  /-- Name of its template. -/
  template : String
  /-- The closure above it. -/
  parent : Option ClosureId
  /-- The closures below it, oldest first. -/
  children : List ClosureId
  /-- Its fields. -/
  fields : FieldMap
  /-- The datums that it owns, oldest first. -/
  owned : List DatumId
  /-- Its revision counters. -/
  revisions : Revisions

/-- All live nodes at one moment. -/
structure Snapshot where
  /-- Generation of the last wave. -/
  generation : Nat
  /-- Live datums. -/
  datums : Std.ExtTreeMap DatumId DatumSnapshot
  /-- Live closures. -/
  closures : Std.ExtTreeMap ClosureId ClosureSnapshot

/-- A datum as readers see it. -/
def Datum.snapshot (d : Datum) : DatumSnapshot :=
  { typeName := d.typeName
    content := d.content
    availability := d.status.availability
    error := d.status.payload
    owner := d.owner
    revisions := d.revisions }

/-- A closure as readers see it. -/
def Closure.snapshot (c : Closure) : ClosureSnapshot :=
  { template := c.template
    parent := c.parent
    children := c.children
    fields := c.fields
    owned := c.owned
    revisions := c.revisions }

/-- All live nodes of a state. -/
def State.snapshot {κ : Type} (s : State κ) : Snapshot :=
  { generation := s.generation
    datums := s.datums.map fun _ d => d.snapshot
    closures := s.closures.map fun _ c => c.snapshot }

/-- The content of a datum as a member of an object: its fields or its items. -/
def Content.member : Content → String × Json
  | .record fields => ("fields", fields.toJson)
  | .collection items => ("items", .array (items.map Value.toJson))

/-- A datum as an object. Without an error there is no error member. -/
def DatumSnapshot.toJson (d : DatumSnapshot) : Json :=
  .object <|
    [("type", .text d.typeName), d.content.member,
     ("availability", d.availability.toJson)] ++
    (d.error.map fun v => ("error", v.toJson)).toList ++
    [("owner", .option (d.owner.map ClosureId.toJson)), ("revisions", d.revisions.toJson)]

/-- A closure as an object. -/
def ClosureSnapshot.toJson (c : ClosureSnapshot) : Json :=
  .object
    [("template", .text c.template),
     ("parent", .option (c.parent.map ClosureId.toJson)),
     ("children", .array (c.children.map ClosureId.toJson)),
     ("fields", c.fields.toJson),
     ("owned_datum", .array (c.owned.map DatumId.toJson)),
     ("revisions", c.revisions.toJson)]

namespace Snapshot

/-- A snapshot as an object; nodes are members named by their raw numbers. -/
def toJson (s : Snapshot) : Json :=
  .object
    [("generation", .nat s.generation),
     ("datums", .object (s.datums.toList.map fun (id, d) => (toString id.raw, d.toJson))),
     ("closures", .object (s.closures.toList.map fun (id, c) => (toString id.raw, c.toJson)))]

/-- The JSON text of a snapshot. -/
def toJsonText (s : Snapshot) : String := s.toJson.render

/-- The indented JSON text of a snapshot. -/
def toJsonTextIndented (s : Snapshot) : String := s.toJson.renderIndented

end Snapshot

end ReactiveKernel
