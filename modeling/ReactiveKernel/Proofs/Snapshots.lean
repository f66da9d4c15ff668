import Mathlib.Data.Option.Defs
import ReactiveKernel.Kernel.Creation
import ReactiveKernel.Proofs.Snapshots.Forms

/-!
# Snapshots

A snapshot shows the live nodes of a state, all of them and no others, each as it is. Its text loses
nothing: snapshots without doubles that have the same text are the same, whatever characters stand
in their names and texts. The nodes of each family are written in ascending order of their numbers.
-/

namespace ReactiveKernel

open Json (Document Means MembersMean means_object membersMean_cons membersMean_nil read_render
  render_injective)

/-- A datum and what a snapshot shows of it. -/
structure Datum.ShownAs (d : Datum) (e : DatumSnapshot) : Prop where
  /-- The name of its type. -/
  typeName : e.typeName = d.typeName
  /-- Its fields or items. -/
  content : e.content = d.content
  /-- Its availability. -/
  availability : e.availability = d.status.availability
  /-- Its error payload, if it has failed with one. -/
  error : e.error = d.status.payload
  /-- Its owner. -/
  owner : e.owner = d.owner
  /-- Its revision counters. -/
  revisions : e.revisions = d.revisions

/-- A closure and what a snapshot shows of it. -/
structure Closure.ShownAs (c : Closure) (e : ClosureSnapshot) : Prop where
  /-- The name of its template. -/
  template : e.template = c.template
  /-- The closure above it. -/
  parent : e.parent = c.parent
  /-- The closures below it, in order. -/
  children : e.children = c.children
  /-- Its fields. -/
  fields : e.fields = c.fields
  /-- The datums that it owns, in order. -/
  owned : e.owned = c.owned
  /-- Its revision counters. -/
  revisions : e.revisions = c.revisions

/-- A state and a snapshot of it. -/
structure State.ShownAs {κ : Type} (s : State κ) (e : Snapshot) : Prop where
  /-- The generation of the last wave. -/
  generation : e.generation = s.generation
  /-- A datum has an entry if it is live, and is shown there. -/
  datums : ∀ id : DatumId, Option.Rel Datum.ShownAs s.datums[id]? e.datums[id]?
  /-- A closure has an entry if it is live, and is shown there. -/
  closures : ∀ id : ClosureId, Option.Rel Closure.ShownAs s.closures[id]? e.closures[id]?

/-- A snapshot shows the state that it was made from. -/
theorem State.shownAs_snapshot {κ : Type} (s : State κ) : s.ShownAs s.snapshot := by
  refine ⟨rfl, fun id => ?_, fun id => ?_⟩
  · rw [State.snapshot, Std.ExtTreeMap.getElem?_map]
    cases s.datums[id]? with
    | none => exact .none
    | some d => exact .some ⟨rfl, rfl, rfl, rfl, rfl, rfl⟩
  · rw [State.snapshot, Std.ExtTreeMap.getElem?_map]
    cases s.closures[id]? with
    | none => exact .none
    | some c => exact .some ⟨rfl, rfl, rfl, rfl, rfl, rfl⟩

/-! ### The order of nodes in a text -/

/-- The members of an object stand for the entries of a map, named by ascending numbers. -/
structure Enumerates {κ β : Type} [Ord κ] [Std.TransOrd κ] (number : κ → Nat) (write : β → Json)
    (entries : Std.ExtTreeMap κ β) (members : List (Option String × Document)) : Prop where
  /-- The names are the numbers of the entries. -/
  names : members.map (·.1) = (entries.keys.map number).map fun n => some (toString n)
  /-- The numbers ascend. -/
  ascending : (entries.keys.map number).Pairwise (· < ·)
  /-- Every member says what its entry says. -/
  values : MembersMean (entries.toList.map fun e => (toString (number e.1), write e.2)) members

/-- Documents of members have the keys of the members. -/
theorem names_of_means {members : List (String × Json)} {ds : List (Option String × Document)}
    (means : MembersMean members ds) : ds.map (·.1) = members.map fun m => some m.1 := by
  induction members generalizing ds with
  | nil =>
    rw [membersMean_nil.mp means]
    rfl
  | cons m members ih =>
    obtain ⟨d, more, rfl, -, others⟩ := membersMean_cons.mp means
    rw [List.map_cons, List.map_cons, ih others]

/-- The entries of a map are in the order of their numbers, if keys are compared by them. -/
theorem enumerates_of_means {κ β : Type} [Ord κ] [Std.TransOrd κ] {number : κ → Nat}
    {write : β → Json} {entries : Std.ExtTreeMap κ β} {ds : List (Option String × Document)}
    (order : ∀ a b : κ, compare a b = .lt → number a < number b)
    (means : MembersMean (entries.toList.map fun e => (toString (number e.1), write e.2)) ds) :
    Enumerates number write entries ds := by
  refine ⟨?_, ?_, means⟩
  · rw [names_of_means means, ← Std.ExtTreeMap.map_fst_toList_eq_keys]
    simp only [List.map_map]
    rfl
  · rw [← Std.ExtTreeMap.map_fst_toList_eq_keys, List.map_map, List.pairwise_map]
    exact Std.ExtTreeMap.ordered_keys_toList.imp fun {a b} less => order a.1 b.1 less

/-- Datums are compared by their numbers. -/
theorem DatumId.raw_lt_of_compare {a b : DatumId} (less : compare a b = .lt) : a.raw < b.raw := by
  have places : a.index < b.index := Nat.compare_eq_lt.mp less
  simp only [DatumId.raw]
  omega

/-- Closures are compared by their numbers. -/
theorem ClosureId.raw_lt_of_compare {a b : ClosureId} (less : compare a b = .lt) :
    a.raw < b.raw := by
  have places : a.index < b.index := Nat.compare_eq_lt.mp less
  simp only [ClosureId.raw]
  omega

/-- A text is an object of the generation of a snapshot and its nodes, those of each family in
ascending order. -/
def Snapshot.ListedIn (s : Snapshot) (text : String) : Prop :=
  ∃ generation datums closures,
    Document.read text = some (.object [(some "generation", generation),
      (some "datums", .object datums), (some "closures", .object closures)]) ∧
    Means (.nat s.generation) generation ∧
    Enumerates DatumId.raw DatumSnapshot.toJson s.datums datums ∧
    Enumerates ClosureId.raw ClosureSnapshot.toJson s.closures closures

/-- The text of a snapshot lists its nodes. -/
theorem Snapshot.listedIn_toJsonText (s : Snapshot) : s.ListedIn s.toJsonText := by
  obtain ⟨d, read, means⟩ := read_render s.toJson
  rw [toJson] at means
  simp only [means_object, membersMean_cons, membersMean_nil] at means
  obtain ⟨_, rfl, generation, _, rfl, current, _, _, rfl, ⟨datums, rfl, nodes⟩, _, _, rfl,
    ⟨closures, rfl, others⟩, rfl⟩ := means
  exact ⟨generation, datums, closures, read, current,
    enumerates_of_means (fun _ _ => DatumId.raw_lt_of_compare) nodes,
    enumerates_of_means (fun _ _ => ClosureId.raw_lt_of_compare) others⟩

/-- Snapshots without doubles that have the same text are the same. -/
theorem Snapshot.eq_of_toJsonText {a b : Snapshot} (exact : a.FloatFree) (exact' : b.FloatFree)
    (same : a.toJsonText = b.toJsonText) : a = b :=
  toJson_injective (render_injective (floatFree_toJson exact) (floatFree_toJson exact') same)

/-- A snapshot of any state shows every live node as it is and no others. Two snapshots without
doubles have the same text only if they are the same, and a text lists the nodes in ascending order
of their numbers. -/
theorem snapshots_faithful :
    (∀ (κ : Type) (s : State κ), s.ShownAs s.snapshot) ∧
    (∀ a b : Snapshot, a.FloatFree → b.FloatFree → a.toJsonText = b.toJsonText → a = b) ∧
    ∀ s : Snapshot, s.ListedIn s.toJsonText :=
  ⟨fun _ => State.shownAs_snapshot, fun _ _ => Snapshot.eq_of_toJsonText,
    Snapshot.listedIn_toJsonText⟩

/-- The snapshot of a kernel whose only datum was made from a list of fields. -/
def shownCell (fields : List (String × Value)) : Option Snapshot :=
  ((Kernel.create .standard .empty : Kernel Unit).createDatum "Cell\n" fields none).toOption.map
    (·.2.snapshot)

/-- Two datums made from the same fields in another order, with characters that are escaped. -/
theorem snapshots_faithful_reordered :
    ∃ a b, shownCell [("b\"", .text "\\\x01"), ("a", .int (-3))] = some a ∧
      shownCell [("a", .int (-3)), ("b\"", .text "\\\x01")] = some b ∧
      a.FloatFree ∧ b.FloatFree ∧ a.toJsonText = b.toJsonText ∧ a = b := by
  have shown : (shownCell [("b\"", .text "\\\x01"), ("a", .int (-3))]).map
      (fun a => (decide a.FloatFree, a.toJsonText)) =
      (shownCell [("a", .int (-3)), ("b\"", .text "\\\x01")]).map
        (fun a => (decide a.FloatFree, a.toJsonText)) := by decide +kernel
  have free : (shownCell [("a", .int (-3)), ("b\"", .text "\\\x01")]).map
      (fun a => decide a.FloatFree) = some true := by decide +kernel
  obtain ⟨b, made', exact'⟩ := Option.map_eq_some_iff.mp free
  rw [made', Option.map_some] at shown
  obtain ⟨a, made, same⟩ := Option.map_eq_some_iff.mp shown
  obtain ⟨exact, text⟩ := Prod.mk.inj same
  rw [exact'] at exact
  have free := of_decide_eq_true exact
  have free' := of_decide_eq_true exact'
  exact ⟨a, b, made, made', free, free', text, snapshots_faithful.2.1 a b free free' text⟩

end ReactiveKernel
