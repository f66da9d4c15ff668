import Mathlib.Data.Fintype.EquivFin
import Mathlib.Data.List.Forall2
import Mathlib.Data.Set.Finite.Basic
import Mathlib.Logic.Relation
import Mathlib.Order.WellFounded
import ReactiveKernel.Node.Closure
import ReactiveKernel.Template

/-!
# Plans and what they develop into

Templates without host code are lists of declarations. A plan tells the declarations of each name. A
name develops into a tree: one node for the name, with a tree for each of its children below it. If
no name below requires itself, then either the whole tree develops, or there is a first name, in the
order in which nodes are made, that the plan does not know.
-/

namespace ReactiveKernel

variable {κ : Type}

/-- One step of putting a template together: a call site without host code. -/
structure Declaration where
  /-- Whether the child is made together with the closure. -/
  child : Bool
  /-- Index of the call site. -/
  index : Nat
  /-- Template of the child. -/
  template : String

namespace Declaration

/-- The call sites whose children are made together with the closure, in the order in which they
were first declared so. -/
def places (ds : List Declaration) : List Nat :=
  ((ds.filter fun d => d.child).map fun d => d.index).eraseDups

/-- The template of a call site, as it was declared last. -/
def target? (ds : List Declaration) (index : Nat) : Option String :=
  (ds.reverse.find? fun d => d.index == index).map fun d => d.template

/-- The templates of the children that are made together with the closure, in order. -/
def children (ds : List Declaration) : List String := (places ds).filterMap (target? ds)

variable {ds : List Declaration}

/-- A place was declared. -/
theorem mem_places {index : Nat} (h : index ∈ places ds) : ∃ d ∈ ds, d.index = index := by
  rw [places, List.mem_eraseDups] at h
  obtain ⟨d, member, is⟩ := List.mem_map.mp h
  exact ⟨d, List.mem_of_mem_filter member, is⟩

/-- A place has a template. -/
theorem exists_target {index : Nat} (h : index ∈ places ds) :
    ∃ name, target? ds index = some name := by
  obtain ⟨d, member, is⟩ := mem_places h
  cases found : ds.reverse.find? fun d => d.index == index with
  | some d' => exact ⟨d'.template, by simp [target?, found]⟩
  | none =>
    have other := List.find?_eq_none.mp found d (List.mem_reverse.mpr member)
    simp [is] at other

/-- Each child has the template that its call site was last declared with. -/
theorem forall₂_children :
    List.Forall₂ (fun index name => target? ds index = some name) (places ds) (children ds) := by
  have all (indices : List Nat) (inside : ∀ i ∈ indices, i ∈ places ds) :
      List.Forall₂ (fun index name => target? ds index = some name) indices
        (indices.filterMap (target? ds)) := by
    induction indices with
    | nil => exact .nil
    | cons i rest ih =>
      obtain ⟨name, is⟩ := exists_target (inside i List.mem_cons_self)
      rw [List.filterMap_cons_some is]
      exact .cons is (ih fun j member => inside j (List.mem_cons_of_mem i member))
  exact all (places ds) fun _ member => member

end Declaration

namespace Template

/-- The template with one more call site. -/
def declare (t : Template κ) (d : Declaration) : Template κ :=
  if d.child then t.withChild d.index (.ofTemplate d.template)
  else t.withCallSite d.index (.ofTemplate d.template)

/-- The template with these call sites and without host code. -/
def declared (ds : List Declaration) : Template κ := ds.foldl declare .empty

variable (ds : List Declaration) (d : Declaration)

/-- One more declaration comes last. -/
theorem declared_snoc : (declared (ds ++ [d]) : Template κ) = (declared ds).declare d := by
  simp [declared]

@[simp] theorem internal_declared : (declared ds : Template κ).internal = none := by
  induction ds using List.reverseRecOn with
  | nil => rfl
  | append_singleton ds d ih =>
    rw [declared_snoc, declare]
    split <;> exact ih

/-- The children on top of a declared template are at its places. -/
theorem topChildren_declared :
    (declared ds : Template κ).topChildren = Declaration.places ds := by
  induction ds using List.reverseRecOn with
  | nil => rfl
  | append_singleton ds d ih =>
    rw [declared_snoc, declare]
    cases child : d.child with
    | false => simpa [withCallSite, Declaration.places, child] using ih
    | true =>
      let old := (ds.filter fun d => d.child).map fun d => d.index
      have places : Declaration.places (ds ++ [d]) =
          Declaration.places ds ++ ([d.index].removeAll old).eraseDups := by
        simp [Declaration.places, child, List.eraseDups_append, old]
      have known : d.index ∈ Declaration.places ds ↔ d.index ∈ old := List.mem_eraseDups
      rw [places, if_pos rfl]
      simp only [withChild, ih, known]
      by_cases again : d.index ∈ old
      · simp [again, List.removeAll]
      · simp [again, List.removeAll, List.eraseDups_cons]

/-- A declared template has the call sites that were declared last. -/
theorem getElem?_callSites_declared (index : Nat) :
    (declared ds : Template κ).callSites[index]? =
      (Declaration.target? ds index).map CallSite.ofTemplate := by
  induction ds using List.reverseRecOn with
  | nil => simp [declared, empty, Declaration.target?]
  | append_singleton ds d ih =>
    have inserted : (declared (ds ++ [d]) : Template κ).callSites =
        (declared ds).callSites.insert d.index (.ofTemplate d.template) := by
      rw [declared_snoc, declare]
      split <;> rfl
    rw [inserted, Std.ExtTreeMap.getElem?_insert, ih]
    by_cases is : d.index = index <;> simp [Declaration.target?, is]

end Template

/-- The declarations of each name that is known. -/
structure Plan where
  /-- The declarations of a name. -/
  declarations : String → Option (List Declaration)

/-- The templates of a library are those of a plan. -/
def TemplateLibrary.Follows (lib : TemplateLibrary κ) (plan : Plan) : Prop :=
  ∀ name, lib.get? name = (plan.declarations name).map Template.declared

/-- Trees beside each other, each with the trees below its root. -/
inductive Grove where
  | none
  | tree (template : String) (below beside : Grove)

namespace Grove

/-- The number of nodes. -/
def size : Grove → Nat
  | .none => 0
  | .tree _ below beside => 1 + below.size + beside.size

/-- The roots, if the nodes are numbered from here on with each node before those below it. -/
def roots : Nat → Grove → List ClosureId
  | _, .none => []
  | n, .tree _ below beside => ⟨n⟩ :: beside.roots (n + 1 + below.size)

/-- The closures that stand for the nodes, numbered in this way. -/
def rows (generation : Nat) : Option ClosureId → Nat → Grove → List (ClosureId × Closure)
  | _, _, .none => []
  | parent, n, .tree template below beside =>
    (⟨n⟩, { Closure.create template parent generation with children := below.roots (n + 1) }) ::
      (below.rows generation (some ⟨n⟩) (n + 1) ++
        beside.rows generation parent (n + 1 + below.size))

/-- The numbers are given one after another. -/
theorem map_fst_rows (f : Grove) (generation : Nat) (parent : Option ClosureId) (n : Nat) :
    (f.rows generation parent n).map (·.1) = (List.range' n f.size).map ClosureId.mk := by
  induction f generalizing parent n with
  | none => rfl
  | tree template below beside ih ih' =>
    have split : List.range' n (1 + below.size + beside.size) =
        n :: (List.range' (n + 1) below.size ++
          List.range' (n + 1 + below.size) beside.size) := by
      rw [List.range'_append_1, ← List.range'_succ]
      congr 1
      omega
    simp only [rows, size, split, List.map_cons, List.map_append, ih, ih']

/-- So their raw identifiers are consecutive odd ones. -/
theorem map_raw_rows (f : Grove) (generation : Nat) (parent : Option ClosureId) (c : ClosureId) :
    (f.rows generation parent (c.index + 1)).map (·.1.raw) =
      (List.range f.size).map fun i => c.raw + 2 * (i + 1) := by
  have raw : (f.rows generation parent (c.index + 1)).map (·.1.raw) =
      ((List.range' (c.index + 1) f.size).map ClosureId.mk).map ClosureId.raw := by
    rw [← map_fst_rows f generation parent, List.map_map]
    rfl
  rw [raw, List.range'_eq_map_range, List.map_map, List.map_map]
  refine List.map_congr_left fun i _ => ?_
  simp only [Function.comp_apply, ClosureId.raw]
  omega

/-- The closures for the nodes of trees are numbered in a row. -/
theorem mem_rows {f : Grove} {generation n : Nat} {parent : Option ClosureId}
    {row : ClosureId × Closure} (h : row ∈ f.rows generation parent n) :
    n ≤ row.1.index ∧ row.1.index < n + f.size := by
  have member : row.1 ∈ (List.range' n f.size).map ClosureId.mk := by
    rw [← map_fst_rows f generation parent n]
    exact List.mem_map_of_mem h
  obtain ⟨i, inside, is⟩ := List.mem_map.mp member
  rw [← is]
  have bounds := List.mem_range'_1.mp inside
  exact bounds

end Grove

namespace Plan

variable {plan : Plan} {t name : String} {names : List String}

/-- A name requires the templates of the children that are made together with its closures. -/
def Requires (plan : Plan) (a b : String) : Prop :=
  ∃ ds, plan.declarations a = some ds ∧ b ∈ Declaration.children ds

/-- A name requires another one, over any number of steps. -/
abbrev Reaches (plan : Plan) : String → String → Prop := Relation.ReflTransGen plan.Requires

/-- Names develop into trees beside each other. -/
inductive Develops (plan : Plan) : List String → Grove → Prop
  /-- No names are left. -/
  | nil : Develops plan [] .none
  /-- A name that is known, its children, and the other names. -/
  | cons {t : String} {names : List String} {ds : List Declaration} {below beside : Grove} :
    plan.declarations t = some ds → Develops plan (Declaration.children ds) below →
    Develops plan names beside → Develops plan (t :: names) (.tree t below beside)

/-- Names develop up to a first one that is not known, when so many nodes were made. -/
inductive Breaks (plan : Plan) (name : String) : List String → Nat → Prop
  /-- The first name is not known. -/
  | first {names : List String} : plan.declarations name = none → Breaks plan name (name :: names) 0
  /-- A name below the first one is not known. -/
  | under {t : String} {names : List String} {ds : List Declaration} {n : Nat} :
    plan.declarations t = some ds → Breaks plan name (Declaration.children ds) n →
    Breaks plan name (t :: names) (n + 1)
  /-- The first name develops, and another one is, or has below it, a name that is not known. -/
  | later {t : String} {names : List String} {ds : List Declaration} {below : Grove} {n : Nat} :
    plan.declarations t = some ds → Develops plan (Declaration.children ds) below →
    Breaks plan name names n → Breaks plan name (t :: names) (1 + below.size + n)

/-- Names develop in one way. -/
theorem Develops.unique {f f' : Grove} (h : plan.Develops names f) (h' : plan.Develops names f') :
    f = f' := by
  induction h generalizing f' with
  | nil =>
    cases h'
    rfl
  | cons known _ _ ih ih' =>
    cases h' with
    | cons known' below beside =>
      cases known.symm.trans known'
      rw [ih below, ih' beside]

/-- Names that develop require only names that are known. -/
theorem Develops.known {f : Grove} (h : plan.Develops names f) (member : t ∈ names) {a : String}
    (reaches : plan.Reaches t a) : (plan.declarations a).isSome := by
  induction h generalizing t with
  | nil => cases member
  | cons known _ _ ih ih' =>
    rcases List.mem_cons.mp member with rfl | member
    · rcases reaches.cases_head with rfl | ⟨child, ⟨ds, known', below⟩, reaches⟩
      · exact known ▸ rfl
      · cases known.symm.trans known'
        exact ih below reaches
    · exact ih' member reaches

/-- The name at which it breaks is one that is required and not known. -/
theorem Breaks.unknown {n : Nat} (h : plan.Breaks name names n) :
    plan.declarations name = none ∧ ∃ t ∈ names, plan.Reaches t name := by
  induction h with
  | first unknown => exact ⟨unknown, name, List.mem_cons_self, .refl⟩
  | @under t names ds n known _ ih =>
    obtain ⟨unknown, child, member, reaches⟩ := ih
    exact ⟨unknown, t, List.mem_cons_self, .head ⟨ds, known, member⟩ reaches⟩
  | @later t names ds below n _ _ _ ih =>
    obtain ⟨unknown, other, member, reaches⟩ := ih
    exact ⟨unknown, other, List.mem_cons_of_mem t member, reaches⟩

/-- If each of some names develops or breaks, so do they all. -/
theorem develops_or_breaks_of_forall
    (each : ∀ t ∈ names, (∃ f, plan.Develops [t] f) ∨ ∃ name n, plan.Breaks name [t] n) :
    (∃ f, plan.Develops names f) ∨ ∃ name n, plan.Breaks name names n := by
  induction names with
  | nil => exact .inl ⟨.none, .nil⟩
  | cons t names ih =>
    rcases each t List.mem_cons_self with ⟨f, develops⟩ | ⟨name, n, breaks⟩
    · cases develops with
      | cons known below _ =>
        rcases ih fun other member => each other (List.mem_cons_of_mem t member) with
          ⟨beside, others⟩ | ⟨name, n, breaks⟩
        · exact .inl ⟨_, .cons known below others⟩
        · exact .inr ⟨name, _, .later known below breaks⟩
    · cases breaks with
      | first unknown => exact .inr ⟨_, 0, .first unknown⟩
      | under known breaks => exact .inr ⟨_, _, .under known breaks⟩
      | later _ _ breaks => cases breaks

/-- A name develops or breaks if going down from it always comes to an end. -/
theorem develops_or_breaks (descends : Acc (fun b a => plan.Requires a b) t) :
    (∃ below, plan.Develops [t] (.tree t below .none)) ∨ ∃ name n, plan.Breaks name [t] n := by
  induction descends with
  | intro t _ ih =>
    cases known : plan.declarations t with
    | none => exact .inr ⟨t, 0, .first known⟩
    | some ds =>
      have each (child : String) (member : child ∈ Declaration.children ds) :
          (∃ f, plan.Develops [child] f) ∨ ∃ name n, plan.Breaks name [child] n :=
        (ih child ⟨ds, known, member⟩).imp_left fun ⟨below, develops⟩ => ⟨_, develops⟩
      rcases develops_or_breaks_of_forall each with ⟨below, develops⟩ | ⟨name, n, breaks⟩
      · exact .inl ⟨below, .cons known develops .nil⟩
      · exact .inr ⟨name, _, .under known breaks⟩

/-- In a plan that knows finitely many names, going down from a name comes to an end if no name that
is reached requires itself. -/
theorem acc_of_acyclic (finite : {a | (plan.declarations a).isSome}.Finite)
    (acyclic : ∀ a, plan.Reaches t a → ¬ Relation.TransGen plan.Requires a a) :
    Acc (fun b a => plan.Requires a b) t := by
  let Known := {a // plan.Reaches t a ∧ (plan.declarations a).isSome}
  let below (b a : Known) : Prop := Relation.TransGen plan.Requires a.1 b.1
  have : Finite Known := (finite.subset fun _ h => h.2).to_subtype
  have : IsTrans Known below := ⟨fun _ _ _ h h' => h'.trans h⟩
  have : Std.Irrefl below := ⟨fun a => acyclic a.1 a.2.1⟩
  have descends : WellFounded below := Finite.wellFounded_of_trans_of_irrefl below
  have known (a : Known) : Acc (fun b a => plan.Requires a b) a.1 := by
    induction a using descends.induction with
    | _ a ih =>
      refine .intro a.1 fun b requires => ?_
      cases there : plan.declarations b with
      | none => exact .intro b fun c further => by simp [Requires, there] at further
      | some ds =>
        exact ih ⟨b, a.2.1.tail requires, there ▸ rfl⟩ (.single requires)
  cases there : plan.declarations t with
  | none => exact .intro t fun c further => by simp [Requires, there] at further
  | some ds => exact known ⟨t, .refl, there ▸ rfl⟩

end Plan

end ReactiveKernel
