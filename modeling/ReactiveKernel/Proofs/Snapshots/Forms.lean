import Mathlib.Data.List.Basic
import ReactiveKernel.Proofs.Interchange
import ReactiveKernel.Proofs.Json.Uniqueness
import ReactiveKernel.Snapshot

/-!
# The JSON form of a snapshot

Different snapshots have different JSON forms. A node is a member under its raw number and no two
numbers are written alike; the name beside a content tells fields from items, and an error that is
left out is not taken for one that is null. A form holds a double only where the snapshot does.
-/

namespace ReactiveKernel

open Function (Injective)

/-! ### Parts of a form -/

/-- A natural number is determined by its form. -/
theorem Json.nat_injective : Injective Json.nat := fun _ _ same =>
  Int.ofNat.inj (Json.int.inj same)

/-- No two numbers are written alike. -/
theorem toString_injective : Injective (toString : Nat → String) := by
  intro m n same
  rw [Nat.toString_eq_ofList_toDigits, Nat.toString_eq_ofList_toDigits] at same
  have digits : Layout.natDigits m = Layout.natDigits n := String.ofList_injective same
  rw [← Json.digitsValue_natDigits m, digits, Json.digitsValue_natDigits]

/-- A datum is determined by its form. -/
theorem DatumId.toJson_injective : Injective DatumId.toJson := fun _ _ same =>
  DatumId.raw_injective (Json.nat_injective same)

/-- A closure is determined by its form. -/
theorem ClosureId.toJson_injective : Injective ClosureId.toJson := fun _ _ same =>
  ClosureId.raw_injective (Json.nat_injective same)

/-- A closure that is missing is not taken for one that is there. -/
theorem owner_injective : Injective fun owner : Option ClosureId =>
    Json.option (owner.map ClosureId.toJson) := by
  intro a b same
  cases a <;> cases b
  · rfl
  · cases same
  · cases same
  · exact congrArg some (ClosureId.toJson_injective same)

/-- An availability is determined by its form. -/
theorem Availability.toJson_injective : Injective Availability.toJson := by
  intro a b same
  have names := Json.text.inj same
  cases a <;> cases b <;> first | rfl | exact absurd names (by decide)

/-- Revisions are determined by their form. -/
theorem Revisions.toJson_injective : Injective Revisions.toJson := by
  intro a b same
  obtain ⟨structural, carried⟩ : Json.nat a.structural = .nat b.structural ∧
      Json.nat a.carried = .nat b.carried := by simpa [Revisions.toJson] using same
  cases a
  cases b
  exact congr (congrArg Revisions.mk (Json.nat_injective structural)) (Json.nat_injective carried)

/-- Values of different kinds are told apart by the names of their kinds. -/
theorem Value.toJson_injective : Injective Value.toJson := by
  intro a b same
  cases a <;> cases b <;> simp only [Value.toJson, Json.object.injEq, List.cons.injEq,
    Prod.mk.injEq, Json.text.injEq, Json.bool.injEq, Json.int.injEq, Json.float.injEq,
    true_and, and_true] at same
  case null.null => rfl
  case bool.bool => rw [same]
  case int.int => rw [Int64.toInt_inj.mp same]
  case float.float => rw [same]
  case text.text => rw [same]
  case datum.datum => rw [DatumId.toJson_injective same]
  all_goals simp at same

/-- Entries of a map under written keys. -/
theorem entries_injective {κ β : Type} [Ord κ] [Std.TransOrd κ] {key : κ → String}
    {write : β → Json} (keys : Injective key) (values : Injective write) :
    Injective fun entries : Std.ExtTreeMap κ β =>
      Json.object (entries.toList.map fun e => (key e.1, write e.2)) := by
  intro a b same
  have listed := Json.object.inj same
  have pairs : Injective fun e : κ × β => (key e.1, write e.2) := by
    rintro ⟨k, v⟩ ⟨k', v'⟩ equal
    obtain ⟨name, value⟩ := Prod.mk.inj equal
    exact Prod.ext (keys name) (values value)
  exact Std.ExtTreeMap.toList_inj.mp (pairs.list_map listed)

/-- Fields are determined by their form. -/
theorem FieldMap.toJson_injective : Injective FieldMap.toJson :=
  entries_injective Function.injective_id Value.toJson_injective

/-- Fields are told from items by the name beside them. -/
theorem Content.member_injective : Injective Content.member := by
  intro a b same
  cases a <;> cases b <;> simp only [Content.member, Prod.mk.injEq, Json.array.injEq,
    true_and] at same
  case record.record => rw [FieldMap.toJson_injective same]
  case collection.collection => rw [Value.toJson_injective.list_map same]
  all_goals exact absurd same.1 (by decide)

/-! ### Nodes -/

/-- The snapshot of a datum is determined by its form. -/
theorem DatumSnapshot.toJson_injective : Injective DatumSnapshot.toJson := by
  rintro ⟨typeName, content, availability, error, owner, revisions⟩
    ⟨typeName', content', availability', error', owner', revisions'⟩ same
  simp only [DatumSnapshot.toJson, Json.object.injEq, List.cons_append, List.nil_append,
    List.cons.injEq, Prod.mk.injEq, Json.text.injEq, true_and] at same
  obtain ⟨rfl, contents, available, others⟩ := same
  obtain rfl := Content.member_injective contents
  obtain rfl := Availability.toJson_injective available
  have errors : error = error' ∧ owner = owner' ∧ revisions = revisions' := by
    cases error <;> cases error' <;> simp only [Option.map_none, Option.map_some,
      Option.toList_none, Option.toList_some, List.nil_append, List.cons_append, List.cons.injEq,
      Prod.mk.injEq, true_and, and_true] at others
    case none.none =>
      exact ⟨rfl, owner_injective others.1, Revisions.toJson_injective others.2⟩
    case some.some =>
      exact ⟨congrArg some (Value.toJson_injective others.1), owner_injective others.2.1,
        Revisions.toJson_injective others.2.2⟩
    all_goals exact absurd others.1.1 (by decide)
  obtain ⟨rfl, rfl, rfl⟩ := errors
  rfl

/-- The snapshot of a closure is determined by its form. -/
theorem ClosureSnapshot.toJson_injective : Injective ClosureSnapshot.toJson := by
  rintro ⟨template, parent, children, fields, owned, revisions⟩
    ⟨template', parent', children', fields', owned', revisions'⟩ same
  simp only [ClosureSnapshot.toJson, Json.object.injEq, List.cons.injEq, Prod.mk.injEq,
    Json.text.injEq, Json.array.injEq, true_and, and_true] at same
  obtain ⟨rfl, above, below, fields, owned, counters⟩ := same
  obtain rfl := owner_injective above
  obtain rfl := ClosureId.toJson_injective.list_map below
  obtain rfl := FieldMap.toJson_injective fields
  obtain rfl := DatumId.toJson_injective.list_map owned
  obtain rfl := Revisions.toJson_injective counters
  rfl

/-- Different snapshots have different forms. -/
theorem Snapshot.toJson_injective : Injective Snapshot.toJson := by
  rintro ⟨generation, datums, closures⟩ ⟨generation', datums', closures'⟩ same
  simp only [Snapshot.toJson, Json.object.injEq, List.cons.injEq, Prod.mk.injEq, true_and,
    and_true] at same
  obtain ⟨current, nodes, others⟩ := same
  obtain rfl := Json.nat_injective current
  have datumKeys : Injective fun id : DatumId => toString id.raw := fun _ _ equal =>
    DatumId.raw_injective (toString_injective equal)
  have closureKeys : Injective fun id : ClosureId => toString id.raw := fun _ _ equal =>
    ClosureId.raw_injective (toString_injective equal)
  obtain rfl := entries_injective datumKeys DatumSnapshot.toJson_injective
    (congrArg Json.object nodes)
  obtain rfl := entries_injective closureKeys ClosureSnapshot.toJson_injective
    (congrArg Json.object others)
  rfl

/-! ### Doubles -/

/-- The values in a content. -/
def Content.held : Content → List Value
  | .record fields => fields.toList.map (·.2)
  | .collection items => items

/-- The values in a datum. -/
def DatumSnapshot.held (d : DatumSnapshot) : List Value := d.content.held ++ d.error.toList

/-- The values in a closure. -/
def ClosureSnapshot.held (c : ClosureSnapshot) : List Value := c.fields.toList.map (·.2)

/-- The values in a snapshot. -/
def Snapshot.held (s : Snapshot) : List Value :=
  s.datums.toList.flatMap (·.2.held) ++ s.closures.toList.flatMap (·.2.held)

/-- No value in a snapshot is a double. -/
def Snapshot.FloatFree (s : Snapshot) : Prop := ∀ v ∈ s.held, v.isFloat = false

instance (s : Snapshot) : Decidable s.FloatFree :=
  inferInstanceAs (Decidable (∀ v ∈ s.held, v.isFloat = false))

/-- The form of a value is free of doubles unless the value is one. -/
theorem Value.floatFree_toJson {v : Value} (exact : v.isFloat = false) : v.toJson.FloatFree := by
  cases v with
  | float x => cases exact
  | null | bool b | int n | text s | datum id =>
    simp [Value.toJson, DatumId.toJson, Json.nat, Json.FloatFree, Json.MembersFloatFree]

/-- The form of fields is free of doubles if no field holds one. -/
theorem FieldMap.floatFree_toJson {fields : FieldMap}
    (exact : ∀ v ∈ fields.toList.map (·.2), v.isFloat = false) : fields.toJson.FloatFree := by
  rw [FieldMap.toJson, Json.FloatFree, Json.membersFloatFree_iff]
  intro m listed
  obtain ⟨e, inside, rfl⟩ := List.mem_map.mp listed
  exact Value.floatFree_toJson (exact _ (List.mem_map_of_mem inside))

/-- The form of a content is free of doubles if it holds none. -/
theorem Content.floatFree_member {c : Content} (exact : ∀ v ∈ c.held, v.isFloat = false) :
    c.member.2.FloatFree := by
  cases c with
  | record fields => exact FieldMap.floatFree_toJson exact
  | collection items =>
    rw [Content.member, Json.FloatFree, Json.itemsFloatFree_iff]
    intro j listed
    obtain ⟨v, inside, rfl⟩ := List.mem_map.mp listed
    exact Value.floatFree_toJson (exact v inside)

/-- The form of an owner is free of doubles. -/
theorem floatFree_owner (owner : Option ClosureId) :
    (Json.option (owner.map ClosureId.toJson)).FloatFree := by
  cases owner <;> trivial

/-- The form of a datum is free of doubles if it holds none. -/
theorem DatumSnapshot.floatFree_toJson {d : DatumSnapshot}
    (exact : ∀ v ∈ d.held, v.isFloat = false) : d.toJson.FloatFree := by
  rw [DatumSnapshot.toJson, Json.FloatFree, Json.membersFloatFree_iff]
  intro m listed
  simp only [List.mem_append, List.mem_cons, List.not_mem_nil, or_false, Option.mem_toList,
    Option.map_eq_some_iff] at listed
  rcases listed with ((rfl | rfl | rfl) | ⟨v, inside, rfl⟩) | rfl | rfl
  · trivial
  · exact Content.floatFree_member fun v inside => exact v (List.mem_append_left _ inside)
  · trivial
  · refine Value.floatFree_toJson (exact v (List.mem_append_right _ ?_))
    simp [inside]
  · exact floatFree_owner d.owner
  · exact ⟨trivial, trivial, trivial⟩

/-- The form of a closure is free of doubles if it holds none. -/
theorem ClosureSnapshot.floatFree_toJson {c : ClosureSnapshot}
    (exact : ∀ v ∈ c.held, v.isFloat = false) : c.toJson.FloatFree := by
  have children : Json.ItemsFloatFree (c.children.map ClosureId.toJson) := by
    rw [Json.itemsFloatFree_iff]
    intro j listed
    obtain ⟨id, -, rfl⟩ := List.mem_map.mp listed
    trivial
  have owned : Json.ItemsFloatFree (c.owned.map DatumId.toJson) := by
    rw [Json.itemsFloatFree_iff]
    intro j listed
    obtain ⟨id, -, rfl⟩ := List.mem_map.mp listed
    trivial
  exact ⟨trivial, floatFree_owner c.parent, children, FieldMap.floatFree_toJson exact, owned,
    ⟨trivial, trivial, trivial⟩, trivial⟩

/-- The form of a snapshot without doubles has none. -/
theorem Snapshot.floatFree_toJson {s : Snapshot} (exact : s.FloatFree) : s.toJson.FloatFree := by
  have datums : Json.MembersFloatFree
      (s.datums.toList.map fun e => (toString e.1.raw, e.2.toJson)) := by
    rw [Json.membersFloatFree_iff]
    intro m listed
    obtain ⟨e, inside, rfl⟩ := List.mem_map.mp listed
    exact DatumSnapshot.floatFree_toJson fun v held =>
      exact v (List.mem_append_left _ (List.mem_flatMap.mpr ⟨e, inside, held⟩))
  have closures : Json.MembersFloatFree
      (s.closures.toList.map fun e => (toString e.1.raw, e.2.toJson)) := by
    rw [Json.membersFloatFree_iff]
    intro m listed
    obtain ⟨e, inside, rfl⟩ := List.mem_map.mp listed
    exact ClosureSnapshot.floatFree_toJson fun v held =>
      exact v (List.mem_append_right _ (List.mem_flatMap.mpr ⟨e, inside, held⟩))
  exact ⟨trivial, datums, closures, trivial⟩

end ReactiveKernel
