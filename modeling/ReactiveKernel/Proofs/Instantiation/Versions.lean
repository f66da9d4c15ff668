import ReactiveKernel.Proofs.Instantiation.Survival
import ReactiveKernel.Proofs.Intake.Queue
import ReactiveKernel.Proofs.Run.Scope

/-!
# The version of a template that a child is made from

A new closure is wired by the template that is registered under its name when the instantiation
starts, and has a child for each top call site of that version, in order. The call site of each
child, though, is looked up when its turn comes, in the version that is registered then. Host code
that registers the name anew in between changes which children are made, or lets the instantiation
fail for want of a call site.
-/

namespace ReactiveKernel

variable {κ : Type}

namespace Template

/-- A template that was put together from the empty one. -/
inductive Assembled : Template κ → Prop
  /-- Nothing was added yet. -/
  | empty : Assembled .empty
  /-- Host code for the closure itself was added. -/
  | internal {t : Template κ} (code : κ) : Assembled t → Assembled (t.withInternal code)
  /-- A call site on demand was added. -/
  | callSite {t : Template κ} (index : Nat) (site : CallSite κ) :
    Assembled t → Assembled (t.withCallSite index site)
  /-- A call site of a child was added. -/
  | child {t : Template κ} (index : Nat) (site : CallSite κ) :
    Assembled t → Assembled (t.withChild index site)

/-- The call site of a template with this name. -/
def site (t : Template κ) (name : String) (index : Nat) : Except Fault (CallSite κ) :=
  match t.callSites[index]? with
  | some site => .ok site
  | none => .error (.unknownCallSite name index)

variable {t : Template κ}

/-- Call sites are still there when another one is added. -/
theorem getElem?_insert_isSome {m : Std.ExtTreeMap Nat (CallSite κ)} {index : Nat}
    (h : (m[index]?).isSome) (i : Nat) (site : CallSite κ) :
    ((m.insert i site)[index]?).isSome := by
  rw [Std.ExtTreeMap.getElem?_insert]
  split
  · rfl
  · exact h

/-- Every child that is made together with the closure has a call site. -/
theorem Assembled.child_site (h : t.Assembled) {index : Nat} (top : index ∈ t.topChildren) :
    (t.callSites[index]?).isSome := by
  induction h with
  | empty => cases top
  | internal code _ ih => exact ih top
  | callSite i site _ ih => exact getElem?_insert_isSome (ih top) i site
  | @child t i site _ ih =>
    by_cases old : index ∈ t.topChildren
    · exact getElem?_insert_isSome (ih old) i site
    · simp only [withChild] at top
      split at top
      · exact absurd top old
      · obtain rfl : index = i := by simpa [old] using top
        simp [withChild]

/-- A template that was put together has a call site wherever it has a child on top. -/
theorem Assembled.site_eq_ok (h : t.Assembled) {index : Nat} (top : index ∈ t.topChildren)
    (name : String) : ∃ site, t.callSites[index]? = some site ∧ t.site name index = .ok site := by
  obtain ⟨site, there⟩ := Option.isSome_iff_exists.mp (h.child_site top)
  exact ⟨site, there, by simp [Template.site, there]⟩

end Template

/-- A template that is registered is found under its name, and all others stay as they are. -/
theorem TemplateLibrary.get?_insert (lib : TemplateLibrary κ) (name name' : String)
    (t : Template κ) :
    (lib.insert name t).get? name' = if name = name' then some t else lib.get? name' := by
  simp [get?, insert, Std.ExtTreeMap.getElem?_insert]

/-- Host code within the scope does not register the name. -/
def Scope.Leaves (S : Scope κ) (name : String) : Prop := ∀ t k, ¬ S.command (.register name t) k

/-- Host code may ask for anything but to register a certain name. -/
def Scope.keeping (κ : Type) (name : String) : Scope κ where
  command c _ := ∀ t, c ≠ .register name t
  probe _ _ := True
  call _ _ := True

/-- A version of a template is registered under the name, and it is this one unless host code
registered another. -/
def Kernel.Knows (k : Kernel κ) (S : Scope κ) (name : String) (t : Template κ) : Prop :=
  ∃ V, k.templates.get? name = some V ∧ (S.Leaves name → V = t)

/-- The version that is known under a name is determined by the library. -/
theorem Kernel.Knows.of_templates {S : Scope κ} {name : String} {t : Template κ} {k k' : Kernel κ}
    (knows : k.Knows S name t) (same : k'.templates = k.templates) : k'.Knows S name t := by
  obtain ⟨V, there, kept⟩ := knows
  exact ⟨V, same ▸ there, kept⟩

/-- The version that is registered under a name is changed by host code only. -/
def Contract.version (S : Scope κ) (name : String) (t : Template κ) : Contract κ :=
  ⟨fun k => k.Knows S name t, fun _ _ => True, fun _ _ => True⟩

namespace Contract

open Kernel

variable {S : Scope κ} {name : String} {t : Template κ} {k k' : Kernel κ}

/-- Versions may only change from one moment to the next. -/
theorem version_ordered : (version S name t).Ordered := ⟨fun _ => trivial, fun _ _ => trivial,
  fun _ => trivial, fun _ _ => trivial⟩

/-- Whoever leaves the library alone passes the contract. -/
theorem version_passes (same : k'.templates = k.templates) (knows : k.Knows S name t) :
    (version S name t).Passes k k' :=
  ⟨knows.of_templates same, trivial, trivial⟩

/-- Operations other than drains leave versions alone. -/
theorem version_receptive : (version S name t).Receptive where
  toOrdered := version_ordered
  found _ made :=
    version_passes
      ((intake_updateClosure _ _ _).2.trans (undisturbed_createClosure made).templates)
  remove order _ id := version_passes (undisturbed_razeClosure order _ _ id).templates
  announce _ _ _ := version_passes (Undisturbed.emit _ _).templates
  report e _ := version_passes (Undisturbed.log _ e).templates
  apply order _ _ _ stands := version_passes (undisturbed_event _ order stands).templates
  take := version_passes rfl
  applying _ := version_passes rfl

/-- Drains leave versions alone. -/
theorem version_drainable : (version S name t).Drainable where
  toOrdered := version_ordered
  drainAct action := version_passes action.undisturbed.templates

/-- A command within the scope leaves versions alone. -/
theorem version_command (order : EdgeOrder κ) (c : Command κ) (k : Kernel κ)
    (knows : k.Knows S name t) (within : S.command c k) : (c.perform order k).2.Knows S name t := by
  rcases undisturbed_perform k order c with ⟨event, rfl⟩ | ⟨name', t', rfl⟩ | same
  · exact knows
  · by_cases is : name' = name
    · subst is
      exact ⟨t', (TemplateLibrary.get?_insert _ _ _ _).trans (if_pos rfl),
        fun leaves => absurd within (leaves t' k)⟩
    · obtain ⟨V, there, kept⟩ := knows
      exact ⟨V, (TemplateLibrary.get?_insert _ _ _ _).trans ((if_neg is).trans there), kept⟩
  · exact (version_passes same.templates knows).holds

/-- All that is within the scope leaves versions alone. -/
theorem version_kept : (version S name t).discipline.Kept S :=
  version_receptive.kept (fun _ holds => version_drainable.drain holds)
    (fun _ _ holds => ⟨holds, trivial, trivial⟩) version_command
    fun p k holds _ => (version_passes (undisturbed_probe p k).templates holds).holds

end Contract

namespace Kernel

open State Activity

variable {S : Scope κ} {name : String} {t : Template κ} {k k₁ k' m m' : Kernel κ}
  {order : EdgeOrder κ} {c : ClosureId} {parent : Option ClosureId}

/-- Since a closure was there, whatever happened was announced, and a version of its template is
registered. -/
structure Wires (S : Scope κ) (name : String) (t : Template κ) (k₁ m : Kernel κ) : Prop where
  /-- All was announced. -/
  told : ∃ events, k₁.Chronicles events m
  /-- The version may be another one only if the scope lets host code register the name. -/
  knows : m.Knows S name t

/-- What safe steps wire on top of what was wired is wired. -/
theorem Wires.steps (h : k₁.Wires S name t m) {α : Type} {a : Activity κ α} {r : α}
    (tells : m.Accounted → a.Safe (.telling κ) m)
    (keeps : m.Knows S name t → a.Safe (.version S name t) m)
    (steps : StepsWithin S a (.done r m')) : k₁.Wires S name t m' := by
  obtain ⟨events, told⟩ := h.told
  have passed := (Contract.telling_sound.steps (tells told.accounted) steps.steps).2
  obtain ⟨more, later⟩ := passed.chronicles
  have obeys := ((keeps h.knows).obeys fun _ _ knows => ⟨knows, trivial, trivial⟩).mono
    fun _ _ back => back.holds
  exact ⟨⟨events ++ more, told.trans later⟩, Contract.version_kept.steps obeys steps⟩

/-- Host code that is let in. -/
theorem Wires.reactTo (h : k₁.Wires S name t m) {code : Option κ} {occasion : Occasion}
    {r : Except Fault Unit} (steps : StepsWithin S (reactTo code occasion m) (.done r m')) :
    k₁.Wires S name t m' :=
  h.steps (Contract.telling_drainStable.reactTo code occasion)
    (Contract.version_ordered.reactTo code occasion) steps

/-- A call that is made. -/
theorem Wires.call (h : k₁.Wires S name t m) (order : EdgeOrder κ) (c : Call)
    {r : Except Fault c.Reply} (steps : StepsWithin S (c.activity order m) (.done r m')) :
    k₁.Wires S name t m' :=
  h.steps (Contract.telling_sound.call order c m)
    (Contract.version_receptive.call (fun _ => Contract.version_drainable.drain) order c) steps

/-- A closure that stood at first stands as long as it is live. -/
theorem Wires.stands (h : k₁.Wires S name t m) (accounted : k₁.Accounted)
    (stands : k₁.toState.Stands c name parent) (live : c ∈ m.closures) :
    m.toState.Stands c name parent := by
  obtain ⟨events, told⟩ := h.told
  obtain ⟨_, _, gone, stays⟩ := (told.spares accounted stands).after
  exact stays fun destroyed => gone destroyed live

/-- The call site of a live closure is that of the version which is registered. -/
theorem findCallSite_eq {x : Closure} {V : Template κ} (live : k.closures[c]? = some x)
    (there : k.templates.get? x.template = some V) (index : Nat) :
    k.findCallSite c index = V.site x.template index := by
  have closure : k.requireClosure c = .ok x := requireClosure_ok.mpr live
  have template : k.templates.require x.template = .ok V := by
    rw [TemplateLibrary.require, there]
  unfold findCallSite Template.site
  rw [closure]
  change (k.templates.require x.template >>= _) = _
  rw [template]
  change (match V.callSites[index]? with | some site => _ | none => _) = _
  cases V.callSites[index]? <;> rfl

/-- The call site of a child is that of the version which is registered when its turn comes. -/
theorem Wires.findCallSite (h : k₁.Wires S name t m) (accounted : k₁.Accounted)
    (stands : k₁.toState.Stands c name parent) (live : c ∈ m.closures) :
    ∃ V, m.templates.get? name = some V ∧ (S.Leaves name → V = t) ∧
      ∀ index, m.findCallSite c index = V.site name index := by
  obtain ⟨V, there, same⟩ := h.knows
  obtain ⟨x, hx, rfl, _⟩ := (h.stands accounted stands live).live
  exact ⟨V, there, same, findCallSite_eq hx there⟩

/-- A call site that is found belongs to a live closure. -/
theorem live_of_findCallSite {index : Nat} {site : CallSite κ}
    (found : k.findCallSite c index = .ok site) : c ∈ k.closures := by
  obtain ⟨x, hx, _⟩ := bind_eq_ok.mp found
  exact mem_closures (requireClosure_ok.mp hx)

/-- A call site that attaches a child has instantiated its template and has had it bound. -/
theorem within_callSite {index : Nat} {child : ClosureId}
    (h : StepsWithin S (k.callSite order c index) (.done (.ok child) k')) : ∃ site inner m,
      k.findCallSite c index = .ok site ∧
      StepsWithin S (k.instantiate inner site.template (some c) []) (.done (.ok child) m) ∧
      StepsWithin S (reactTo site.binding (.attached c child) m) (.done (.ok ()) k') := by
  unfold callSite at h
  cases found : k.findCallSite c index with
  | error fault =>
    rw [found] at h
    cases h.steps.of_done.1
  | ok site =>
    rw [found] at h
    obtain ⟨inner, r, m, builds, h⟩ := h.of_call
    cases r with
    | error fault => cases h.steps.of_done.1
    | ok made =>
      obtain ⟨outcome, m', binds, h⟩ := h.of_bind
      cases outcome with
      | error fault => cases h.steps.of_done.1
      | ok u =>
        obtain ⟨same, rfl⟩ := h.steps.of_done
        cases same
        exact ⟨site, inner, m, rfl, builds, binds⟩

/-- An instantiation that succeeds has found its template, has made its closure, and has had it
bound and its children made. -/
theorem within_instantiate {params : List (String × Value)}
    (h : StepsWithin S (k.instantiate order name parent params) (.done (.ok c) k')) :
    ∃ t k₁ m m', k.templates.get? name = some t ∧ k.createClosure name parent = .ok (c, k₁) ∧
      StepsWithin S (reactTo t.internal (.instantiated c) (k₁.setParams c params))
        (.done (.ok ()) m) ∧
      StepsWithin S (m.makeChildren c t.topChildren) (.done (.ok ()) m') ∧
      k' = (m'.concludeInstantiation order c name (.ok ())).2 := by
  rw [instantiate_eq] at h
  cases known : k.templates.require name with
  | error fault =>
    rw [known] at h
    cases h.steps.of_done.1
  | ok t =>
    rw [known] at h
    cases made : k.createClosure name parent with
    | error fault =>
      rw [made] at h
      cases h.steps.of_done.1
    | ok created =>
      obtain ⟨id, k₁⟩ := created
      rw [made] at h
      obtain ⟨outcome, m', wires, ends⟩ := h.of_bind
      obtain ⟨returned, rfl⟩ := ends.steps.of_done
      cases outcome with
      | error fault => cases returned
      | ok u =>
        have returned : (m'.concludeInstantiation order id name (.ok u)).1 = .ok c := returned
        obtain rfl := eq_of_conclude returned
        obtain ⟨reacted, m, reacts, wires⟩ := wires.of_bind
        cases reacted with
        | error fault => cases wires.steps.of_done.1
        | ok u' =>
          refine ⟨t, k₁, m, m', ?_, rfl, reacts, wires, rfl⟩
          unfold TemplateLibrary.require at known
          split at known
          · next there => rw [there, Except.ok.inj known]
          · cases known

/-- Children are made one after another, each from the version that is registered when its turn
comes. Beside each child stands that version. -/
inductive Makes (S : Scope κ) (name : String) (c : ClosureId) :
    List Nat → List (ClosureId × Template κ) → Kernel κ → Kernel κ → Prop
  /-- No child is left to be made. -/
  | none (k : Kernel κ) : Makes S name c [] [] k k
  /-- A child is built from the template of its call site and bound by the code that is there, and
  then the others are made. -/
  | child {index : Nat} {rest : List Nat} {made : List (ClosureId × Template κ)} {V : Template κ}
    {site : CallSite κ} {inner : EdgeOrder κ} {child : ClosureId} {k m m' k' : Kernel κ}
    (known : k.templates.get? name = some V) (here : V.callSites[index]? = some site)
    (builds : StepsWithin S (k.instantiate inner site.template (some c) []) (.done (.ok child) m))
    (stands : m.toState.Stands child site.template (some c))
    (binds : StepsWithin S (reactTo site.binding (.attached c child) m) (.done (.ok ()) m'))
    (later : Makes S name c rest made m' k') :
    Makes S name c (index :: rest) ((child, V) :: made) k k'

variable {params : List (String × Value)}

/-- Making children one after another makes them from the versions that are registered then. -/
theorem Wires.makes (h : k₁.Wires S name t m) (accounted : k₁.Accounted)
    (stands : k₁.toState.Stands c name parent) {indices : List Nat}
    (steps : StepsWithin S (m.makeChildren c indices) (.done (.ok ()) k')) :
    ∃ made, Makes S name c indices made m k' ∧ (S.Leaves name → ∀ x ∈ made, x.2 = t) := by
  induction indices generalizing m with
  | nil =>
    obtain ⟨_, rfl⟩ := steps.steps.of_done
    exact ⟨[], .none m, fun _ _ => nofun⟩
  | cons index rest ih =>
    obtain ⟨outer, r, m', calls, next⟩ := steps.of_call
    cases r with
    | error fault => cases next.steps.of_done.1
    | ok child =>
      have calls : StepsWithin S (m.callSite outer c index) (.done (.ok child) m') := calls
      obtain ⟨site, inner, built, found, builds, binds⟩ := within_callSite calls
      obtain ⟨V, there, same, sites⟩ :=
        h.findCallSite accounted stands (live_of_findCallSite found)
      have here : V.callSites[index]? = some site := by
        have looked := (sites index).symm.trans found
        unfold Template.site at looked
        split at looked
        · next there => rw [there, Except.ok.inj looked]
        · cases looked
      obtain ⟨_, told⟩ := h.told
      obtain ⟨_, stood⟩ := stands_instantiate told.accounted builds.steps
      have later := h.call outer (.callSite c index) calls
      obtain ⟨made, makes, versions⟩ := ih later next
      refine ⟨(child, V) :: made, .child there here builds stood binds makes,
        fun leaves x member => ?_⟩
      cases member with
      | head => exact same leaves
      | tail _ member => exact versions leaves x member

/-- When the closure has been made and has its parameters, it stands, and the version that was
registered at the start still is. -/
theorem wires_created (S : Scope κ) (params : List (String × Value)) (accounted : k.Accounted)
    (known : k.templates.get? name = some t)
    (made : k.createClosure name parent = .ok (c, k₁)) :
    (k₁.setParams c params).Accounted ∧ (k₁.setParams c params).toState.Stands c name parent ∧
      (k₁.setParams c params).Wires S name t (k₁.setParams c params) := by
  have created := chronicles_createClosure accounted made
  have given := Contract.telling_drainStable.act .ascending (.params c params) created.accounted
  obtain ⟨rest, later⟩ := given.chronicles
  obtain ⟨_, rfl, state⟩ := createClosure_spec made
  have told := created.trans later
  have live : k.toState.nextClosure ∈ (k₁.setParams k.toState.nextClosure params).closures := by
    obtain ⟨x, hx⟩ : ∃ x, k₁.closures[k.toState.nextClosure]? = some x :=
      ⟨_, by rw [state, getElem?_closures_addClosure, if_pos rfl]⟩
    exact mem_closures (by rw [getElem?_closures_setParams, hx]; rfl)
  have knows : (k₁.setParams k.toState.nextClosure params).Knows S name t :=
    (Contract.version_receptive.found params made ⟨t, known, fun _ => rfl⟩).holds
  have begun : (k₁.setParams k.toState.nextClosure params).Wires S name t _ :=
    ⟨⟨[], given.holds, (List.append_nil _).symm, .nil _⟩, knows⟩
  exact ⟨given.holds, told.stands live, begun⟩

/-- A new closure is wired by the version of its template that is registered at the start, and its
children are made in the order of that version, one for each entry. Each child is built from and
bound by the call site of the version that is registered when its turn comes. If host code does not
register the name meanwhile, that is the version from the start. Wherever wiring has come to, as
long as the closure is live, the next call site is looked up in the version that is registered then;
if this is the one from the start and it was put together by the building operations, a call site is
found. -/
theorem children_of_registered_versions (h : k.Reachable) (S : Scope κ) (order : EdgeOrder κ)
    (name : String) (parent : Option ClosureId) (params : List (String × Value)) :
    (∀ c k', StepsWithin S (k.instantiate order name parent params) (.done (.ok c) k') →
      ∃ t k₁ m m' made, k.templates.get? name = some t ∧
        k.createClosure name parent = .ok (c, k₁) ∧
        StepsWithin S (reactTo t.internal (.instantiated c) (k₁.setParams c params))
          (.done (.ok ()) m) ∧
        Makes S name c t.topChildren made m m' ∧
        k' = (m'.concludeInstantiation order c name (.ok ())).2 ∧
        (S.Leaves name → ∀ x ∈ made, x.2 = t)) ∧
    ∀ t c k₁ before index after m, k.templates.get? name = some t →
      k.createClosure name parent = .ok (c, k₁) → t.topChildren = before ++ index :: after →
      StepsWithin S ((k₁.setParams c params).wire c { t with topChildren := before })
        (.done (.ok ()) m) → c ∈ m.closures →
      ∃ V, m.templates.get? name = some V ∧ (S.Leaves name → V = t) ∧
        m.findCallSite c index = V.site name index ∧
        (V = t → t.Assembled → ∃ site, t.callSites[index]? = some site ∧
          m.findCallSite c index = .ok site) := by
  have accounted := h.accounted
  constructor
  · intro c k' steps
    obtain ⟨t, k₁, m, m', known, created, reacts, children, ended⟩ := within_instantiate steps
    obtain ⟨given, stands, wires⟩ := wires_created S params accounted known created
    obtain ⟨made, makes, versions⟩ := (wires.reactTo reacts).makes given stands children
    exact ⟨t, k₁, m, m', made, known, created, reacts, makes, ended, versions⟩
  · intro t c k₁ before index after m known created split steps live
    obtain ⟨given, stands, wires⟩ := wires_created S params accounted known created
    have wired := wires.steps
      (Contract.telling_drainStable.wire c { t with topChildren := before })
      (Contract.version_ordered.wire c { t with topChildren := before }) steps
    obtain ⟨V, there, same, sites⟩ := wired.findCallSite given stands live
    refine ⟨V, there, same, sites index, fun is assembled => ?_⟩
    subst is
    have top : index ∈ V.topChildren := by rw [split]; simp
    obtain ⟨site, here, found⟩ := assembled.site_eq_ok top name
    exact ⟨site, here, (sites index).trans found⟩

/-- A template with host code and with two children. -/
def twofold : Template Unit :=
  ((Template.empty.withInternal ()).withChild 3 (.ofTemplate "Leaf")).withChild 1
    (.ofTemplate "Late")

/-- A kernel that knows this template, but not that of its second child. -/
def unready : Kernel Unit :=
  let templates := (TemplateLibrary.empty.insert "Form" twofold).insert "Leaf" .empty
  Kernel.create .standard templates

/-- Host code that registers the template of the second child. -/
def readying : Program Unit (Except Fault Unit) :=
  .command (.register "Late" .empty) fun _ => .pure (.ok ())

/-- The host code of the example leaves the name alone, and the instantiation succeeds. -/
theorem stepsWithin_readying : ∃ k', StepsWithin (.keeping Unit "Form")
    (unready.instantiate .ascending "Form" none []) (.done (.ok ⟨0⟩) k') := by
  obtain ⟨k₁, next, opens, k', closes⟩ : ∃ k₁ next,
      unready.instantiate .ascending "Form" none [] = .react () (.instantiated ⟨0⟩) k₁ next ∧
      ∃ k', StepsWithin (.keeping Unit "Form")
        (next (.ok ()) ((Command.register "Late" .empty).perform .ascending k₁).2)
        (.done (.ok ⟨0⟩) k') := by
    refine ⟨_, _, rfl, ?_⟩
    apply Exists.intro
    refine .head ⟨trivial, .call .ascending (.callSite ⟨0⟩ 3) _ _⟩ ?_
    refine .head ⟨trivial, .call .ascending (.instantiate "Leaf" (some ⟨0⟩) []) _ _⟩ ?_
    refine .head ⟨trivial, .call .ascending (.callSite ⟨0⟩ 1) _ _⟩ ?_
    refine .head ⟨trivial, .call .ascending (.instantiate "Late" (some ⟨0⟩) []) _ _⟩ ?_
    exact .refl
  rw [opens]
  refine ⟨k', .head ⟨trivial, .start () (.instantiated ⟨0⟩) k₁ next readying⟩ ?_⟩
  refine .head ⟨fun t is => ?_, .command .ascending _ _ _ _⟩ (.head ⟨trivial, .finish _ _ _⟩ closes)
  injection is with name
  exact absurd name (by decide)

/-- Both children are made from the version that was registered at the start. -/
theorem children_of_registered_versions_readied : unready.Reachable ∧ ∃ made m k',
    Makes (.keeping Unit "Form") "Form" ⟨0⟩ [3, 1] made m k' ∧ ∀ x ∈ made, x.2 = twofold := by
  have reachable : unready.Reachable := reachable_performAll .ascending _ _ []
  obtain ⟨k', steps⟩ := stepsWithin_readying
  obtain ⟨t, k₁, m, m', made, known, _, _, makes, _, versions⟩ :=
    (children_of_registered_versions reachable (.keeping Unit "Form") .ascending "Form" none []).1
      _ _ steps
  have same : twofold = t := Option.some.inj known
  subst same
  exact ⟨reachable, made, m, m', makes, versions fun t k within => within t rfl⟩

/-- A template with host code and with one child. -/
def revisable : Template Unit :=
  (Template.empty.withInternal ()).withChild 0 (.ofTemplate "Leaf")

/-- A kernel that knows this template. -/
def revised : Kernel Unit :=
  let templates := ((TemplateLibrary.empty.insert "Form" revisable).insert "Leaf" .empty).insert
    "Other" .empty
  Kernel.create .standard templates

/-- Host code that registers another template under the same name. -/
def reviser (t : Template Unit) : Host Unit where
  order := .ascending
  behave _ _ := .command (.register "Form" t) fun _ => .pure (.ok ())

/-- Host code of the closure can have another child made than its template asks for, and it can let
the instantiation fail for want of a call site that its template has. -/
theorem child_of_another_version : revised.Reachable ∧ revisable.Assembled ∧
    revised.templates.get? "Form" = some revisable ∧ revisable.topChildren = [0] ∧
    (revisable.callSites[0]?).map (·.template) = some "Leaf" ∧
    (∃ k', Steps (revised.instantiate .ascending "Form" none []) (.done (.ok ⟨0⟩) k') ∧
      (k'.closures[(⟨0⟩ : ClosureId)]?).map (·.children) = some [⟨1⟩] ∧
      (k'.closures[(⟨1⟩ : ClosureId)]?).map (·.template) = some "Other") ∧
    ∃ k', Steps (revised.instantiate .ascending "Form" none [])
      (.done (.error (.unknownCallSite "Form" 0)) k') := by
  have other : ∃ k', Steps (revised.instantiate .ascending "Form" none []) (.done (.ok ⟨0⟩) k') ∧
      ((k'.closures[(⟨0⟩ : ClosureId)]?).map (·.children),
        (k'.closures[(⟨1⟩ : ClosureId)]?).map (·.template)) = (some [⟨1⟩], some "Other") :=
    (reviser (Template.empty.withChild 0 (.ofTemplate "Other"))).exists_steps 3
      (.instantiate "Form" none []) revised _ rfl
  have missing : ∃ k', Steps (revised.instantiate .ascending "Form" none [])
      (.done (.error (.unknownCallSite "Form" 0)) k') ∧ k'.closures.size = 0 :=
    (reviser .empty).exists_steps 3 (.instantiate "Form" none []) revised _ rfl
  obtain ⟨k', steps, seen⟩ := other
  obtain ⟨m, fails, _⟩ := missing
  exact ⟨reachable_performAll .ascending _ _ [], .child _ _ (.internal _ .empty), rfl, rfl, rfl,
    ⟨k', steps, (Prod.ext_iff.mp seen).1, (Prod.ext_iff.mp seen).2⟩, m, fails⟩

end Kernel

end ReactiveKernel
