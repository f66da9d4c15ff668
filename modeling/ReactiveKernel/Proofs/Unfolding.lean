import ReactiveKernel.Proofs.Instantiation.Versions
import ReactiveKernel.Proofs.Run.Ending
import ReactiveKernel.Proofs.Unfolding.Planting

/-!
# Instantiation without host code

If no template has host code, an instantiation is decided by the declarations alone. It comes to an
end when no template below requires itself. Either all that is below develops, and just the closures
of the tree are new, or the fault is about the first name that is not known, and nothing has changed
but the counter of closures.
-/

namespace ReactiveKernel

variable {κ : Type}

namespace State

/-- The templates are those of a plan, and a closure is of one with these declarations. -/
structure Declares (s : State κ) (plan : Plan) (c : ClosureId) (ds : List Declaration) : Prop where
  /-- The templates are those of the plan. -/
  follows : s.templates.Follows plan
  /-- The closure is live, and its template has the declarations. -/
  live : ∃ x, s.closures[c]? = some x ∧ plan.declarations x.template = some ds

variable {s : State κ} {plan : Plan} {c : ClosureId} {ds : List Declaration}

/-- A closure still has its declarations when trees are planted. -/
theorem Declares.plant (h : s.Declares plan c ds) (issued : s.Issued) (parent : Option ClosureId)
    (f : Grove) : (s.plant parent f).Declares plan c ds := by
  obtain ⟨x, hx, known⟩ := h.live
  refine ⟨by rw [templates_plant]; exact h.follows, ?_⟩
  refine ⟨_, by rw [getElem?_closures_plant f (issued.closures c x hx), hx]; rfl, ?_⟩
  split <;> exact known

/-- A closure with declarations may hold others. -/
theorem Declares.holderLive (h : s.Declares plan c ds) : s.HolderLive (some c) := by
  obtain ⟨x, hx, _⟩ := h.live
  rintro _ ⟨⟩
  exact mem_closures hx

/-- A new closure has the declarations of its template. -/
theorem declares_enroll (follows : s.templates.Follows plan) {t : String}
    (known : plan.declarations t = some ds) (parent : Option ClosureId)
    (params : List (String × Value)) :
    (s.enroll t parent params).Declares plan s.nextClosure ds where
  follows := by
    rw [enroll_eq]
    exact follows
  live := ⟨_, by rw [getElem?_closures_enroll, if_pos rfl], known⟩

end State

namespace TemplateLibrary

variable {lib : TemplateLibrary κ} {plan : Plan} {t : String} {ds : List Declaration}

/-- A name that is known is found in the library. -/
theorem Follows.get? (h : lib.Follows plan) (known : plan.declarations t = some ds) :
    lib.get? t = some (.declared ds) := by
  rw [h, known]
  rfl

/-- A name that is known is found when it is required. -/
theorem Follows.require (h : lib.Follows plan) (known : plan.declarations t = some ds) :
    lib.require t = .ok (.declared ds) := by
  rw [TemplateLibrary.require, h.get? known]

/-- A name that is not known is refused when it is required. -/
theorem Follows.require_error (h : lib.Follows plan) (unknown : plan.declarations t = none) :
    lib.require t = .error (.unknownTemplate t) := by
  rw [TemplateLibrary.require, h, unknown]
  rfl

/-- A library has finitely many names. -/
theorem Follows.finite (h : lib.Follows plan) : {a | (plan.declarations a).isSome}.Finite := by
  refine (lib.names.finite_toSet).subset fun a known => ?_
  obtain ⟨ds, known⟩ := Option.isSome_iff_exists.mp known
  have there : a ∈ lib.templates := by
    rw [Std.ExtTreeMap.mem_iff_isSome_getElem?]
    exact Option.isSome_iff_exists.mpr ⟨_, h.get? known⟩
  exact Std.ExtTreeMap.mem_keys.mpr there

end TemplateLibrary

namespace Kernel

open State Activity

variable {k : Kernel κ} {order : EdgeOrder κ} {plan : Plan} {c : ClosureId} {t name : String}
  {ds : List Declaration} {parent : Option ClosureId} {params : List (String × Value)}
  {names : List String} {n : Nat}

/-- The call site that was declared last is found. -/
theorem findCallSite_declared (h : k.toState.Declares plan c ds) {index : Nat}
    (target : Declaration.target? ds index = some name) :
    k.findCallSite c index = .ok (.ofTemplate name) := by
  obtain ⟨x, hx, known⟩ := h.live
  rw [findCallSite_eq hx (h.follows.get? known), Template.site,
    Template.getElem?_callSites_declared, target]
  rfl

/-- A closure of a template without host code is made with its parameters, and then its children
are. -/
theorem instantiate_declared (follows : k.templates.Follows plan)
    (known : plan.declarations t = some ds) (live : k.toState.HolderLive parent)
    (order : EdgeOrder κ) (params : List (String × Value)) :
    ∃ m : Kernel κ, m.toState = k.toState.enroll t parent params ∧
      k.instantiate order t parent params =
        (m.makeChildren k.toState.nextClosure (Declaration.places ds)).bind fun outcome k' =>
          let (reply, k') := k'.concludeInstantiation order k.toState.nextClosure t outcome
          .done reply k' := by
  cases made : k.createClosure t parent with
  | error fault =>
    have holder := requireHolder_ok (u := ()).mpr live
    rw [createClosure, holder] at made
    cases made
  | ok created =>
    obtain ⟨id, k₁⟩ := created
    obtain ⟨_, rfl, _⟩ := createClosure_spec made
    refine ⟨k₁.setParams k.toState.nextClosure params, toState_setParams params made, ?_⟩
    rw [instantiate_eq]
    rw [follows.require known]
    simp only [made, wire, Template.internal_declared, Template.topChildren_declared]
    rfl

end Kernel

/-- From every kernel in which a closure is to get children of these names, the host makes them with
this outcome. -/
def Host.MakesChildren (h : Host κ) (plan : Plan) (names : List String)
    (outcome : Except Fault Unit) (after : State κ → ClosureId → State κ → Prop) : Prop :=
  ∀ (k : Kernel κ) (c : ClosureId) (ds : List Declaration) (indices : List Nat),
    k.toState.Consistent → k.toState.Declares plan c ds →
    List.Forall₂ (fun index name => Declaration.target? ds index = some name) indices names →
    ∃ k', h.Ends (k.makeChildren c indices) outcome k' ∧ after k.toState c k'.toState

namespace Host

open State Kernel Activity

variable {h : Host κ} {k : Kernel κ} {plan : Plan} {c : ClosureId} {t name : String}
  {ds : List Declaration} {parent : Option ClosureId} {params : List (String × Value)}
  {names : List String} {n : Nat}

/-- Without host code, the child of a call site is made when it is built. -/
theorem ends_callSite {index : Nat} {r : Except Fault ClosureId} {m : Kernel κ}
    (declares : k.toState.Declares plan c ds) (target : Declaration.target? ds index = some name)
    (builds : h.Ends (k.instantiate h.order name (some c) []) r m) :
    h.Ends (k.callSite h.order c index) r m := by
  unfold callSite
  rw [findCallSite_declared declares target]
  refine Ends.next (c := .instantiate name (some c) []) builds ?_
  cases r <;> exact ends_done _ _

/-- An instantiation ends as the making of the children does. -/
theorem ends_instantiate {outcome : Except Fault Unit}
    {after : State κ → ClosureId → State κ → Prop} (consistent : k.toState.Consistent)
    (follows : k.templates.Follows plan)
    (known : plan.declarations t = some ds) (live : k.toState.HolderLive parent)
    (makes : h.MakesChildren plan (Declaration.children ds) outcome after)
    (params : List (String × Value)) :
    ∃ m : Kernel κ, after (k.toState.enroll t parent params) k.toState.nextClosure m.toState ∧
      h.Ends (k.instantiate h.order t parent params)
        (m.concludeInstantiation h.order k.toState.nextClosure t outcome).1
        (m.concludeInstantiation h.order k.toState.nextClosure t outcome).2 := by
  obtain ⟨k₁, state, same⟩ := instantiate_declared follows known live h.order params
  have enrolled : k₁.toState.Consistent := state ▸ consistent.enroll live
  have declares : k₁.toState.Declares plan k.toState.nextClosure ds :=
    state ▸ declares_enroll follows known parent params
  obtain ⟨m, made, done⟩ := makes k₁ _ ds _ enrolled declares Declaration.forall₂_children
  refine ⟨m, state ▸ done, ?_⟩
  rw [same]
  exact made.bind (ends_done _ _)

/-- If the children develop, then the new closure is made, and the trees below it. -/
theorem ends_instantiate_ok {below : Grove} (consistent : k.toState.Consistent)
    (follows : k.templates.Follows plan) (known : plan.declarations t = some ds)
    (live : k.toState.HolderLive parent)
    (makes : h.MakesChildren plan (Declaration.children ds) (.ok ())
      fun s c s' => s' = s.plant (some c) below) (params : List (String × Value)) :
    ∃ k', h.Ends (k.instantiate h.order t parent params) (.ok k.toState.nextClosure) k' ∧
      k'.toState =
        (k.toState.enroll t parent params).plant (some k.toState.nextClosure) below := by
  obtain ⟨m, state, ends⟩ := ends_instantiate consistent follows known live makes params
  have there : k.toState.nextClosure ∈ m.closures := by
    obtain ⟨x, hx, _⟩ := (declares_enroll follows known parent params).live
    rw [state]
    exact (consistent.enroll live).issued.mem_closures_plant _ below (mem_closures hx)
  simp only [concludeInstantiation, Std.ExtTreeMap.contains_iff_mem.mpr there, if_true] at ends
  exact ⟨_, ends, state⟩

/-- If a name below is not known, then what was made is destroyed again. -/
theorem ends_instantiate_error {fault : Fault} (consistent : k.toState.Consistent)
    (follows : k.templates.Follows plan) (known : plan.declarations t = some ds)
    (live : k.toState.HolderLive parent)
    (makes : h.MakesChildren plan (Declaration.children ds) (.error fault)
      fun s c s' => ∃ f m, n = f.size + m ∧ s' = (s.plant (some c) f).spend m)
    (params : List (String × Value)) :
    ∃ k', h.Ends (k.instantiate h.order t parent params) (.error fault) k' ∧
      k'.toState = k.toState.spend (n + 1) := by
  obtain ⟨m, ⟨f, more, rfl, state⟩, ends⟩ :=
    ends_instantiate consistent follows known live makes params
  obtain ⟨still, undone⟩ := consistent.without_planted live f more state
  have razed := toState_raze (k := m.log (.instantiateFailed k.toState.nextClosure t fault))
    still.indexed still.forest.sound h.order k.toState.nextClosure
  refine ⟨_, ends, razed.trans (undone.trans ?_)⟩
  rw [Nat.add_assoc, Nat.add_comm 1]

/-- A child whose own children develop is made with the trees below it, and others can be made
beside it. -/
theorem ends_child {index : Nat} {ds' : List Declaration} {below : Grove}
    (consistent : k.toState.Consistent) (declares : k.toState.Declares plan c ds)
    (target : Declaration.target? ds index = some t) (known : plan.declarations t = some ds')
    (makes : h.MakesChildren plan (Declaration.children ds') (.ok ())
      fun s c s' => s' = s.plant (some c) below) :
    ∃ m : Kernel κ, h.Ends (k.callSite h.order c index) (.ok k.toState.nextClosure) m ∧
      m.toState = k.toState.plant (some c) (.tree t below .none) ∧ m.toState.Consistent ∧
      m.toState.Declares plan c ds := by
  obtain ⟨m, builds, state⟩ :=
    ends_instantiate_ok consistent declares.follows known declares.holderLive makes []
  have planted : m.toState = k.toState.plant (some c) (.tree t below .none) := by
    rw [state, enroll_nil]
    rfl
  refine ⟨m, ends_callSite declares target builds, planted, ?_, ?_⟩
  · exact planted ▸ consistent.plant declares.holderLive _
  · exact planted ▸ declares.plant consistent.issued _ _

/-- Names that develop are made into their trees. -/
theorem makesChildren_of_develops {f : Grove} (develops : plan.Develops names f) :
    h.MakesChildren plan names (.ok ()) fun s c s' => s' = s.plant (some c) f := by
  induction develops with
  | nil =>
    intro k c ds indices _ _ targets
    cases targets
    exact ⟨k, ends_done _ _, rfl⟩
  | @cons t names ds' below beside known _ _ ih ih' =>
    intro k c ds indices consistent declares targets
    cases targets with
    | cons target targets =>
      obtain ⟨m, first, planted, consistent', declares'⟩ :=
        ends_child consistent declares target known ih
      obtain ⟨k', others, state⟩ := ih' m c ds _ consistent' declares' targets
      refine ⟨k', Ends.next (c := .callSite c _) first others, ?_⟩
      rw [state, planted]
      rfl

/-- Names that break are made up to the one that is not known. -/
theorem makesChildren_of_breaks (breaks : plan.Breaks name names n) :
    h.MakesChildren plan names (.error (.unknownTemplate name))
      fun s c s' => ∃ f m, n = f.size + m ∧ s' = (s.plant (some c) f).spend m := by
  induction breaks with
  | @first names unknown =>
    intro k c ds indices _ declares targets
    cases targets with
    | cons target targets =>
      have fails : h.Ends (k.instantiate h.order name (some c) [])
          (.error (.unknownTemplate name)) k := by
        rw [instantiate_eq]
        rw [declares.follows.require_error unknown]
        exact ends_done _ _
      exact ⟨k, Ends.next (c := .callSite c _) (ends_callSite declares target fails)
        (ends_done _ _), .none, 0, rfl, rfl⟩
  | @under t names ds' n known _ ih =>
    intro k c ds indices consistent declares targets
    cases targets with
    | cons target targets =>
      obtain ⟨m, fails, state⟩ :=
        ends_instantiate_error consistent declares.follows known declares.holderLive ih []
      exact ⟨m, Ends.next (c := .callSite c _) (ends_callSite declares target fails)
        (ends_done _ _), .none, n + 1, (Nat.zero_add _).symm, state⟩
  | @later t names ds' below n known develops _ ih =>
    intro k c ds indices consistent declares targets
    cases targets with
    | cons target targets =>
      obtain ⟨m, first, planted, consistent', declares'⟩ :=
        ends_child consistent declares target known (makesChildren_of_develops develops)
      obtain ⟨k', others, f, more, rfl, state⟩ := ih m c ds _ consistent' declares' targets
      refine ⟨k', Ends.next (c := .callSite c _) first others, .tree t below f, more, ?_, ?_⟩
      · simp only [Grove.size, Nat.add_assoc]
      · rw [state, planted]
        rfl

end Host

namespace Kernel

open State Activity

variable {k : Kernel κ} {plan : Plan} {t : String} {parent : Option ClosureId}

/-- An instantiation without host code comes to an end if no template that is reached requires
itself. If all templates that are reached are registered, it gives the next closure, the tree that
the declarations develop into is below that closure, and nothing else has changed. Otherwise the
fault names the first template, in the order in which closures are made, that is not registered, and
only the counter tells how many closures were made before. -/
theorem instantiation_unfolds (reachable : k.Reachable) (h : Host κ)
    (follows : k.templates.Follows plan)
    (acyclic : ∀ a, plan.Reaches t a → ¬ Relation.TransGen plan.Requires a a)
    (live : k.toState.HolderLive parent) (params : List (String × Value)) :
    ∃ depth outcome k',
      (∀ deeper, depth ≤ deeper →
        (h.engine deeper).call (.instantiate t parent params) k = some (outcome, k')) ∧
      ((∀ a, plan.Reaches t a → (k.templates.get? a).isSome) →
        outcome = .ok k.toState.nextClosure ∧ ∃ below, plan.Develops [t] (.tree t below .none) ∧
          k.toState.Unfolds t parent params below k'.toState) ∧
      ((∃ a, plan.Reaches t a ∧ k.templates.get? a = none) →
        ∃ name n, outcome = .error (.unknownTemplate name) ∧ plan.Breaks name [t] n ∧
          k'.toState = k.toState.spend n) := by
  have consistent := reachable.consistent
  have registered (a : String) : k.templates.get? a = none ↔ plan.declarations a = none := by
    rw [follows a, Option.map_eq_none_iff]
  suffices result : ∃ outcome k', h.Ends (k.instantiate h.order t parent params) outcome k' ∧
      ((outcome = .ok k.toState.nextClosure ∧ ∃ below, plan.Develops [t] (.tree t below .none) ∧
          k.toState.Unfolds t parent params below k'.toState) ∨
        ∃ name n, outcome = .error (.unknownTemplate name) ∧ plan.Breaks name [t] n ∧
          k'.toState = k.toState.spend n) by
    obtain ⟨outcome, k', ends, comes⟩ := result
    obtain ⟨depth, called⟩ := Host.Ends.call (c := .instantiate t parent params) ends
    refine ⟨depth, outcome, k', called, fun complete => comes.resolve_right ?_,
      fun ⟨a, reaches, missing⟩ => comes.resolve_left ?_⟩
    · rintro ⟨name, n, -, breaks, -⟩
      obtain ⟨unknown, _, member, reaches⟩ := breaks.unknown
      cases List.mem_singleton.mp member
      have there := complete name reaches
      rw [(registered name).mpr unknown] at there
      cases there
    · rintro ⟨-, below, develops, -⟩
      have there := develops.known List.mem_cons_self reaches
      rw [(registered a).mp missing] at there
      cases there
  have descends := Plan.acc_of_acyclic follows.finite acyclic
  rcases Plan.develops_or_breaks descends with ⟨below, develops⟩ | ⟨name, n, breaks⟩
  · cases develops with
    | cons known children others =>
      obtain ⟨k', ends, state⟩ := Host.ends_instantiate_ok consistent follows known live
        (Host.makesChildren_of_develops children) params
      exact ⟨_, k', ends, .inl ⟨rfl, below, .cons known children others,
        state ▸ consistent.unfolds below⟩⟩
  · cases breaks with
    | first unknown =>
      refine ⟨.error (.unknownTemplate t), k, ?_, .inr ⟨t, 0, rfl, .first unknown, rfl⟩⟩
      rw [instantiate_eq]
      rw [follows.require_error unknown]
      exact Host.ends_done _ _
    | under known breaks =>
      obtain ⟨k', ends, state⟩ := Host.ends_instantiate_error consistent follows known live
        (Host.makesChildren_of_breaks breaks) params
      exact ⟨_, k', ends, .inr ⟨name, _, rfl, .under known breaks, state⟩⟩
    | later _ _ breaks => cases breaks

/-- A form with two rows; the first one was declared anew, and there is a call site on demand. -/
def formDeclarations : List Declaration :=
  [⟨true, 0, "Form"⟩, ⟨false, 2, "Form"⟩, ⟨true, 1, "Row"⟩, ⟨true, 0, "Row"⟩]

/-- Forms have two rows below them. -/
theorem children_formDeclarations : Declaration.children formDeclarations = ["Row", "Row"] := by
  decide

/-- Forms and their rows. -/
def formPlan : Plan where
  declarations name :=
    if name = "Form" then some formDeclarations else if name = "Row" then some [] else none

/-- A kernel with these templates and with a closure. -/
def formKernel : Kernel Unit :=
  let form := ((Template.empty.withChild 0 (.ofTemplate "Form")).withCallSite 2
    (.ofTemplate "Form")).withChild 1 (.ofTemplate "Row")
  let templates := (TemplateLibrary.empty.insert "Row" .empty).insert "Form"
    (form.withChild 0 (.ofTemplate "Row"))
  (Kernel.create .standard templates).performAll .ascending [.createClosure "Window" none]

/-- Only a form requires anything, and that is rows. -/
theorem requires_formPlan {a b : String} (h : formPlan.Requires a b) : a = "Form" ∧ b = "Row" := by
  obtain ⟨ds, known, member⟩ := h
  simp only [formPlan] at known
  split at known
  · next is =>
    cases known
    rw [children_formDeclarations] at member
    simpa [is] using member
  · split at known
    · cases known
      cases member
    · cases known

/-- The templates of the example are those of its plan. -/
theorem follows_formPlan : formKernel.templates.Follows formPlan := by
  intro name
  change (((TemplateLibrary.empty.insert "Row" .empty).insert "Form" _).get? name) = _
  simp only [TemplateLibrary.get?_insert, formPlan, eq_comm (b := name)]
  split
  · simp [formDeclarations, Template.declared, Template.declare]
  · split
    · rfl
    · rfl

/-- Nothing in these templates is host code, so that of their host may do anything. -/
def formHost : Host Unit where
  behave _ _ := .pure (.error .reentrant)

/-- Whatever host code does, a form of the example is unfolded with both of its rows. -/
theorem instantiation_unfolds_form : formKernel.Reachable ∧
    ∃ depth k',
      (∀ deeper, depth ≤ deeper → (formHost.engine deeper).call
        (.instantiate "Form" (some ⟨0⟩) [("a", .null), ("a", .bool true)]) formKernel =
          some (.ok ⟨1⟩, k')) ∧
      formKernel.toState.Unfolds "Form" (some ⟨0⟩) [("a", .null), ("a", .bool true)]
        (.tree "Row" .none (.tree "Row" .none .none)) k'.toState := by
  have reachable : formKernel.Reachable := reachable_performAll ..
  have live : formKernel.toState.HolderLive (some ⟨0⟩) := by
    rintro _ ⟨⟩
    exact mem_closures (x := .create "Window" none 0) rfl
  have acyclic : ∀ a, formPlan.Reaches "Form" a → ¬ Relation.TransGen formPlan.Requires a a := by
    intro a _ cycle
    obtain ⟨b, first, _⟩ := Relation.TransGen.head'_iff.mp cycle
    obtain ⟨b', _, last⟩ := Relation.TransGen.tail'_iff.mp cycle
    exact absurd ((requires_formPlan first).1.symm.trans (requires_formPlan last).2) (by decide)
  have complete : ∀ a, formPlan.Reaches "Form" a → (formKernel.templates.get? a).isSome := by
    intro a reaches
    rw [follows_formPlan a]
    rcases reaches.cases_tail with rfl | ⟨b, _, last⟩
    · rfl
    · rw [(requires_formPlan last).2]
      rfl
  obtain ⟨depth, outcome, k', called, whole, _⟩ := instantiation_unfolds reachable formHost
    follows_formPlan acyclic live [("a", .null), ("a", .bool true)]
  obtain ⟨rfl, below, develops, unfolds⟩ := whole complete
  have form : formPlan.declarations "Form" = some formDeclarations := rfl
  have row : formPlan.declarations "Row" = some [] := rfl
  have rows : formPlan.Develops (Declaration.children formDeclarations)
      (.tree "Row" .none (.tree "Row" .none .none)) := by
    rw [children_formDeclarations]
    exact .cons row .nil (.cons row .nil .nil)
  cases develops.unique (.cons form rows .nil)
  exact ⟨reachable, depth, k', called, unfolds⟩

end Kernel

end ReactiveKernel
