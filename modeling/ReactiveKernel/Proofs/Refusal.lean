import ReactiveKernel.Proofs.Instantiation

/-!
# What a request needs

A request refers to nodes, to the shape of a datum, to an item of a collection, or to templates and
call sites. It needs these in a fixed order. It is refused with the fault of the first one that is
not there, and then it has done nothing: requests run statement by statement, and no statement that
changes the kernel comes before a check that fails. Otherwise a command is done, and a call that
builds a closure has made one before anything else can go wrong.
-/

namespace ReactiveKernel

variable {κ : Type}

/-- Something that a request needs before it does anything. -/
inductive Need where
  /-- A live node. -/
  | node (node : NodeId)
  /-- A datum of a certain shape. -/
  | shape (id : DatumId) (shape : Shape)
  /-- An item of a collection. -/
  | item (id : DatumId) (index : Nat)
  /-- A registered template. -/
  | template (name : String)
  /-- The template of a closure, registered. -/
  | templateOf (id : ClosureId)
  /-- A call site that the template of a closure declares. -/
  | callSite (id : ClosureId) (index : Nat)
  /-- The template of the child of such a call site, registered. -/
  | childTemplate (id : ClosureId) (index : Nat)

namespace State

/-- Something that a request needs is not there, and this fault says so. -/
inductive Lacks (s : State κ) : Need → Fault → Prop
  /-- The datum is not live. -/
  | datum {d : DatumId} (dead : d ∉ s.datums) : Lacks s (.node (.datum d)) (.unknownDatum d)
  /-- The closure is not live. -/
  | closure {c : ClosureId} (dead : c ∉ s.closures) :
    Lacks s (.node (.closure c)) (.unknownClosure c)
  /-- The datum is of the other shape. -/
  | shape {d : DatumId} {x : Datum} {shape : Shape} (live : s.datums[d]? = some x)
    (other : x.content.shape ≠ shape) :
    Lacks s (.shape d shape) (.shapeMismatch d shape x.content.shape)
  /-- The collection is shorter. -/
  | item {d : DatumId} {x : Datum} {items : List Value} {index : Nat}
    (live : s.datums[d]? = some x) (holds : x.content = .collection items)
    (beyond : items.length ≤ index) :
    Lacks s (.item d index) (.itemIndexOutOfRange d index items.length)
  /-- The template is not registered. -/
  | template {name : String} (unknown : s.templates.get? name = none) :
    Lacks s (.template name) (.unknownTemplate name)
  /-- The template of the closure is not registered. -/
  | templateOf {c : ClosureId} {x : Closure} (live : s.closures[c]? = some x)
    (unknown : s.templates.get? x.template = none) :
    Lacks s (.templateOf c) (.unknownTemplate x.template)
  /-- The template of the closure does not declare the call site. -/
  | callSite {c : ClosureId} {x : Closure} {t : Template κ} {index : Nat}
    (live : s.closures[c]? = some x) (known : s.templates.get? x.template = some t)
    (undeclared : index ∉ t.callSites) :
    Lacks s (.callSite c index) (.unknownCallSite x.template index)
  /-- The template of the child is not registered. -/
  | childTemplate {c : ClosureId} {x : Closure} {t : Template κ} {index : Nat}
    {site : CallSite κ} (live : s.closures[c]? = some x)
    (known : s.templates.get? x.template = some t) (declared : t.callSites[index]? = some site)
    (unknown : s.templates.get? site.template = none) :
    Lacks s (.childTemplate c index) (.unknownTemplate site.template)

/-- The first of the needs that is not there is the one that this fault tells of. -/
inductive Refuses (s : State κ) : List Need → Fault → Prop
  /-- It is this one. -/
  | here {need : Need} {rest : List Need} {fault : Fault} (lacks : s.Lacks need fault) :
    Refuses s (need :: rest) fault
  /-- This one is there, and it is a later one. -/
  | later {need : Need} {rest : List Need} {fault : Fault} (met : ∀ f, ¬ s.Lacks need f)
    (refuses : Refuses s rest fault) : Refuses s (need :: rest) fault

/-- The needs are checked in this order, and nothing else is. -/
def Checks (s : State κ) {α : Type} (needs : List Need) (x : Except Fault α) : Prop :=
  ∀ fault, x = .error fault ↔ s.Refuses needs fault

end State

/-- The need for the closure that a new node is attached to. -/
def Need.holder : Option ClosureId → List Need
  | none => []
  | some id => [.node (.closure id)]

/-- What a command needs, in the order in which it is checked. -/
def Command.needs : Command κ → List Need
  | .createDatum _ _ owner | .createCollection _ _ owner => Need.holder owner
  | .createClosure _ parent => Need.holder parent
  | .subscribe source target _ _ => [.node source, .node target]
  | .set (.datum id) _ _ => [.node (.datum id), .shape id .record]
  | .set (.closure id) _ _ => [.node (.closure id)]
  | .setItems id _ | .pushItem id _ => [.node (.datum id), .shape id .collection]
  | .setItem id index _ | .removeItem id index =>
    [.node (.datum id), .shape id .collection, .item id index]
  | .setAvailability id _ | .setError id _ | .destroyDatum id => [.node (.datum id)]
  | .destroyClosure id => [.node (.closure id)]
  | .unsubscribe _ | .putEvent _ | .register _ _ => []

/-- What a call that builds a closure needs before it makes it, in the order in which it is
checked. -/
def Call.needs : Call → List Need
  | .instantiate template parent _ => .template template :: Need.holder parent
  | .callSite parent index => [.node (.closure parent), .templateOf parent,
      .callSite parent index, .childTemplate parent index]
  | .run _ | .drain | .drainEvents => []

namespace State

variable {s : State κ} {α β : Type} {need : Need} {rest : List Need}

/-- Of several needs, the first one refuses, or it is met and one behind it refuses. -/
theorem refuses_cons {fault : Fault} : s.Refuses (need :: rest) fault ↔
    s.Lacks need fault ∨ (∀ f, ¬ s.Lacks need f) ∧ s.Refuses rest fault := by
  constructor
  · rintro (lacks | ⟨met, refuses⟩)
    · exact .inl lacks
    · exact .inr ⟨met, refuses⟩
  · rintro (lacks | ⟨met, refuses⟩)
    · exact .here lacks
    · exact .later met refuses

/-- No need refuses nothing. -/
theorem refuses_nil {fault : Fault} : ¬ s.Refuses [] fault := nofun

/-- One need refuses as it lacks. -/
theorem refuses_one {fault : Fault} : s.Refuses [need] fault ↔ s.Lacks need fault := by
  simp [refuses_cons, refuses_nil]

/-- Nothing need be checked for what is done in any case. -/
theorem checks_ok (x : α) : s.Checks [] (.ok x : Except Fault α) := fun _ =>
  ⟨nofun, fun refuses => absurd refuses refuses_nil⟩

/-- A single check fails as its need lacks. -/
theorem checks_one {x : Except Fault α} (lacks : ∀ f, x = .error f ↔ s.Lacks need f) :
    s.Checks [need] x := fun f => (lacks f).trans refuses_one.symm

/-- Of needs in a row, the first ones refuse, or they are met and the last ones refuse. -/
theorem refuses_append {needs rest : List Need} {fault : Fault} : s.Refuses (needs ++ rest) fault ↔
    s.Refuses needs fault ∨ (∀ f, ¬ s.Refuses needs f) ∧ s.Refuses rest fault := by
  induction needs with
  | nil => simp [refuses_nil]
  | cons need needs ih =>
    rw [List.cons_append, refuses_cons, refuses_cons, ih]
    constructor
    · rintro (lacks | ⟨met, refuses | ⟨passed, refuses⟩⟩)
      · exact .inl (.inl lacks)
      · exact .inl (.inr ⟨met, refuses⟩)
      · exact .inr ⟨fun f h => (refuses_cons.mp h).elim (met f) fun h => passed f h.2, refuses⟩
    · rintro ((lacks | ⟨met, refuses⟩) | ⟨passed, refuses⟩)
      · exact .inl lacks
      · exact .inr ⟨met, .inl refuses⟩
      · have met (f : Fault) : ¬ s.Lacks need f := fun lacks => passed f (.here lacks)
        exact .inr ⟨met, .inr ⟨fun f h => passed f (.later met h), refuses⟩⟩

/-- Checks come first, and the other ones follow if these were passed. -/
theorem Checks.bind {needs : List Need} {x : Except Fault α} {f : α → Except Fault β}
    (first : s.Checks needs x) (next : ∀ a, x = .ok a → s.Checks rest (f a)) :
    s.Checks (needs ++ rest) (x >>= f) := by
  intro fault
  rw [refuses_append]
  cases x with
  | error g =>
    have refuses : s.Refuses needs g := (first g).mp rfl
    have same : (.error g >>= f : Except Fault β) = .error fault ↔
        (.error g : Except Fault α) = .error fault := by
      simp [Bind.bind, Except.bind]
    rw [same, first fault]
    exact ⟨.inl, fun h => h.resolve_right fun passed => passed.1 g refuses⟩
  | ok a =>
    have passed (f : Fault) : ¬ s.Refuses needs f := fun h => nomatch (first f).mpr h
    exact (next a rfl fault).trans
      ⟨fun h => .inr ⟨passed, h⟩, fun h => (h.resolve_left (passed fault)).2⟩

/-- What is done after the checks is not refused. -/
theorem Checks.last {needs : List Need} {x : Except Fault α} {f : α → Except Fault β}
    (first : s.Checks needs x) (done : ∀ a, x = .ok a → ∃ b, f a = .ok b) :
    s.Checks needs (x >>= f) := by
  rw [← List.append_nil needs]
  refine first.bind fun a ha => ?_
  obtain ⟨b, hb⟩ := done a ha
  rw [hb]
  exact checks_ok b

/-! When a need is not there. -/

/-- A datum is lacking if it is not live. -/
theorem lacks_datum {d : DatumId} {fault : Fault} :
    s.Lacks (.node (.datum d)) fault ↔ s.datums[d]? = none ∧ .unknownDatum d = fault := by
  constructor
  · rintro ⟨dead⟩
    exact ⟨Std.ExtTreeMap.getElem?_eq_none dead, rfl⟩
  · rintro ⟨none, rfl⟩
    exact .datum fun live => by simp [Std.ExtTreeMap.mem_iff_isSome_getElem?, none] at live

/-- A closure is lacking if it is not live. -/
theorem lacks_closure {c : ClosureId} {fault : Fault} :
    s.Lacks (.node (.closure c)) fault ↔ s.closures[c]? = none ∧ .unknownClosure c = fault := by
  constructor
  · intro lacks
    cases lacks with
    | closure dead => exact ⟨Std.ExtTreeMap.getElem?_eq_none dead, rfl⟩
  · rintro ⟨none, rfl⟩
    exact .closure fun live => by simp [Std.ExtTreeMap.mem_iff_isSome_getElem?, none] at live

/-- A node is lacking if it is not live. -/
theorem lacks_node {node : NodeId} {fault : Fault} :
    s.Lacks (.node node) fault ↔ s.contains node = false ∧ .unknownNode node = fault := by
  cases node with
  | datum d =>
    rw [lacks_datum, contains, Std.ExtTreeMap.contains_eq_isSome_getElem?,
      Option.isSome_eq_false_iff, Option.isNone_iff_eq_none, Fault.unknownNode]
  | closure c =>
    rw [lacks_closure, contains, Std.ExtTreeMap.contains_eq_isSome_getElem?,
      Option.isSome_eq_false_iff, Option.isNone_iff_eq_none, Fault.unknownNode]

section

variable {d : DatumId} {x : Datum} (hd : s.datums[d]? = some x) {fault : Fault}

include hd

/-- A shape is lacking in a live datum of another shape. -/
theorem lacks_shape {shape : Shape} : s.Lacks (.shape d shape) fault ↔
    x.content.shape ≠ shape ∧ .shapeMismatch d shape x.content.shape = fault := by
  constructor
  · intro lacks
    cases lacks with
    | shape live other =>
      cases hd.symm.trans live
      exact ⟨other, rfl⟩
  · rintro ⟨other, rfl⟩
    exact .shape hd other

/-- An item is lacking in a collection that is too short. -/
theorem lacks_item {items : List Value} (holds : x.content = .collection items) {index : Nat} :
    s.Lacks (.item d index) fault ↔
      items[index]? = none ∧ .itemIndexOutOfRange d index items.length = fault := by
  rw [List.getElem?_eq_none_iff]
  constructor
  · intro lacks
    cases lacks with
    | item live holds' beyond =>
      cases hd.symm.trans live
      cases holds.symm.trans holds'
      exact ⟨beyond, rfl⟩
  · rintro ⟨beyond, rfl⟩
    exact .item hd holds beyond

end

/-- A template is lacking if none is registered under the name. -/
theorem lacks_template {name : String} {fault : Fault} : s.Lacks (.template name) fault ↔
    s.templates.get? name = none ∧ .unknownTemplate name = fault := by
  constructor
  · intro lacks
    cases lacks with
    | template unknown => exact ⟨unknown, rfl⟩
  · rintro ⟨unknown, rfl⟩
    exact .template unknown

section

variable {c : ClosureId} {x : Closure} (hc : s.closures[c]? = some x) {fault : Fault}

include hc

/-- The template of a live closure is lacking if none is registered under its name. -/
theorem lacks_templateOf : s.Lacks (.templateOf c) fault ↔
    s.templates.get? x.template = none ∧ .unknownTemplate x.template = fault := by
  constructor
  · intro lacks
    cases lacks with
    | templateOf live unknown =>
      cases hc.symm.trans live
      exact ⟨unknown, rfl⟩
  · rintro ⟨unknown, rfl⟩
    exact .templateOf hc unknown

variable {t : Template κ} (known : s.templates.get? x.template = some t) {index : Nat}

include known

/-- A call site is lacking if the template of the closure does not declare it. -/
theorem lacks_callSite : s.Lacks (.callSite c index) fault ↔
    t.callSites[index]? = none ∧ .unknownCallSite x.template index = fault := by
  constructor
  · intro lacks
    cases lacks with
    | callSite live known' undeclared =>
      cases hc.symm.trans live
      cases known.symm.trans known'
      exact ⟨Std.ExtTreeMap.getElem?_eq_none undeclared, rfl⟩
  · rintro ⟨none, rfl⟩
    exact .callSite hc known fun declared => by
      simp [Std.ExtTreeMap.mem_iff_isSome_getElem?, none] at declared

/-- The template of a child is lacking if none is registered under the name at the call site. -/
theorem lacks_childTemplate {site : CallSite κ} (declared : t.callSites[index]? = some site) :
    s.Lacks (.childTemplate c index) fault ↔
      s.templates.get? site.template = none ∧ .unknownTemplate site.template = fault := by
  constructor
  · intro lacks
    cases lacks with
    | childTemplate live known' declared' unknown =>
      cases hc.symm.trans live
      cases known.symm.trans known'
      cases declared.symm.trans declared'
      exact ⟨unknown, rfl⟩
  · rintro ⟨unknown, rfl⟩
    exact .childTemplate hc known declared unknown

end

/-! The checks that requests are made of. -/

/-- A template is found exactly if it is registered. -/
theorem requireTemplate_ok {name : String} {t : Template κ} :
    s.templates.require name = .ok t ↔ s.templates.get? name = some t := by
  rw [TemplateLibrary.require]
  cases s.templates.get? name <;> simp

/-- The look-up of a datum checks that it is live. -/
theorem checks_datum (d : DatumId) : s.Checks [.node (.datum d)] (s.requireDatum d) :=
  checks_one fun f => by
    rw [lacks_datum, requireDatum]
    cases s.datums[d]? <;> simp

/-- The look-up of a closure checks that it is live. -/
theorem checks_closure (c : ClosureId) : s.Checks [.node (.closure c)] (s.requireClosure c) :=
  checks_one fun f => by
    rw [lacks_closure, requireClosure]
    cases s.closures[c]? <;> simp

/-- The look-up of a node checks that it is live. -/
theorem checks_node (node : NodeId) : s.Checks [.node node] (s.requireNode node) :=
  checks_one fun f => by
    rw [lacks_node, requireNode]
    cases s.contains node <;> simp

/-- The look-up of a stamp checks that its node is live. -/
theorem checks_stamp (node : NodeId) : s.Checks [.node node] (s.setGenerationOf node) := by
  cases node with
  | datum d => exact (checks_datum d).last fun x _ => ⟨_, rfl⟩
  | closure c => exact (checks_closure c).last fun x _ => ⟨_, rfl⟩

/-- The look-up of a holder checks that it is live, if one is named. -/
theorem checks_holder (holder : Option ClosureId) :
    s.Checks (Need.holder holder) (s.requireHolder holder) := by
  cases holder with
  | none => exact checks_ok ()
  | some c => exact (checks_closure c).last fun x _ => ⟨_, rfl⟩

/-- Only records have fields. -/
theorem checks_fields {d : DatumId} {x : Datum} (hd : s.datums[d]? = some x) :
    s.Checks [.shape d .record] (x.requireFields d) :=
  checks_one fun f => by
    rw [lacks_shape hd, Datum.requireFields]
    cases x.content <;> simp [Content.shape]

/-- Only collections have items. -/
theorem checks_items {d : DatumId} {x : Datum} (hd : s.datums[d]? = some x) :
    s.Checks [.shape d .collection] (x.requireItems d) :=
  checks_one fun f => by
    rw [lacks_shape hd, Datum.requireItems]
    cases x.content <;> simp [Content.shape]

/-- The look-up of a template checks that it is registered. -/
theorem checks_template (name : String) :
    s.Checks [.template name] (s.templates.require name) :=
  checks_one fun f => by
    rw [lacks_template, TemplateLibrary.require]
    cases s.templates.get? name <;> simp

/-- The look-up of the template of a live closure checks that it is registered. -/
theorem checks_templateOf {c : ClosureId} {x : Closure} (hc : s.closures[c]? = some x) :
    s.Checks [.templateOf c] (s.templates.require x.template) :=
  checks_one fun f => by
    rw [lacks_templateOf hc, TemplateLibrary.require]
    cases s.templates.get? x.template <;> simp

end State

namespace Kernel

open State Activity

variable {k k' m : Kernel κ} {order : EdgeOrder κ}

/-- What is checked before a datum is made. -/
theorem checks_createNode (typeName : String) (content : Content) (owner : Option ClosureId) :
    k.toState.Checks (Need.holder owner) (k.createNode typeName content owner) :=
  (checks_holder owner).last fun _ _ => ⟨_, rfl⟩

/-- What is checked before a closure is made. -/
theorem checks_createClosure (template : String) (parent : Option ClosureId) :
    k.toState.Checks (Need.holder parent) (k.createClosure template parent) :=
  (checks_holder parent).last fun _ _ => ⟨_, rfl⟩

/-- What is checked before a subscription is made: its source, and then its target. -/
theorem checks_subscribe (source target : NodeId) (selector : Selector) (code : κ) :
    k.toState.Checks [.node source, .node target] (k.subscribe source target selector code) :=
  (checks_stamp source).bind fun _ _ => (checks_node target).last fun _ _ => ⟨_, rfl⟩

/-- What is checked before a field of a datum is written: the datum, and then its shape. -/
theorem checks_setDatumField (d : DatumId) (field : String) (value : Value) :
    k.toState.Checks [.node (.datum d), .shape d .record]
      (k.setDatumField order d field value) :=
  (checks_datum d).bind fun x hx => (checks_fields (requireDatum_ok.mp hx)).last fun fields _ => by
    dsimp only
    split <;> exact ⟨_, rfl⟩

/-- What is checked before a field of a closure is written. -/
theorem checks_setClosureField (c : ClosureId) (field : String) (value : Value) :
    k.toState.Checks [.node (.closure c)] (k.setClosureField order c field value) :=
  (checks_closure c).last fun x _ => by
    dsimp only
    split <;> exact ⟨_, rfl⟩

/-- A request about the items of a collection needs the collection, and then what it needs of the
items. -/
theorem checks_collection {α : Type} {d : DatumId} {rest : List Need}
    {f : Datum → List Value → Except Fault α}
    (next : ∀ x items, k.datums[d]? = some x → x.content = .collection items →
      k.toState.Checks rest (f x items)) :
    k.toState.Checks (.node (.datum d) :: .shape d .collection :: rest)
      (k.requireDatum d >>= fun x => x.requireItems d >>= f x) :=
  (checks_datum d).bind fun x hx => by
    have live := requireDatum_ok.mp hx
    exact (checks_items live).bind fun items holds =>
      next x items live (requireItems_ok.mp holds)

/-- An item that is to be read has to be there. -/
theorem checks_item {α : Type} {d : DatumId} {x : Datum} {items : List Value} {index : Nat}
    (live : k.datums[d]? = some x) (holds : x.content = .collection items)
    {f : Value → Except Fault α} (done : ∀ v, ∃ a, f v = .ok a) :
    k.toState.Checks [.item d index] (match items[index]? with
      | none => throw (.itemIndexOutOfRange d index items.length)
      | some v => f v) :=
  checks_one fun fault => by
    rw [lacks_item live holds]
    cases items[index]? with
    | none => simp [throw, throwThe, MonadExceptOf.throw]
    | some v =>
      obtain ⟨a, ha⟩ := done v
      simp [ha]

/-- A command is refused for the first thing that it needs and that is not there. -/
theorem checks_attempt (order : EdgeOrder κ) (k : Kernel κ) (c : Command κ) :
    k.toState.Checks c.needs (c.attempt order k) := by
  cases c with
  | createDatum typeName fields owner => exact checks_createNode typeName _ owner
  | createCollection typeName items owner => exact checks_createNode typeName _ owner
  | createClosure template parent => exact checks_createClosure template parent
  | subscribe source target selector code => exact checks_subscribe source target selector code
  | unsubscribe id => exact checks_ok _
  | set node field value =>
    cases node with
    | datum d => exact checks_setDatumField d field value
    | closure c => exact checks_setClosureField c field value
  | setItems d items => exact checks_collection fun x _ _ _ => checks_ok _
  | setItem d index value =>
    refine checks_collection fun x items live holds => checks_item live holds fun v => ?_
    split <;> exact ⟨_, rfl⟩
  | pushItem d value => exact checks_collection fun x _ _ _ => checks_ok _
  | removeItem d index =>
    exact checks_collection fun x items live holds => checks_item live holds fun v => ⟨_, rfl⟩
  | setAvailability d a => exact (checks_datum d).last fun x _ => ⟨_, rfl⟩
  | setError d payload => exact (checks_datum d).last fun x _ => ⟨_, rfl⟩
  | destroyDatum d => exact (checks_datum d).last fun x _ => ⟨_, rfl⟩
  | destroyClosure c => exact (checks_closure c).last fun x _ => ⟨_, rfl⟩
  | putEvent event => exact checks_ok _
  | register name template => exact checks_ok _

/-- What an instantiation needs before it makes a closure. -/
theorem checks_instantiate (template : String) (parent : Option ClosureId)
    (params : List (String × Value)) :
    k.toState.Checks (Call.instantiate template parent params).needs
      (k.templates.require template >>= fun _ => k.createClosure template parent) :=
  (checks_template template).bind fun _ _ => checks_createClosure template parent

/-- What is checked before a call site is found. -/
theorem checks_findCallSite (parent : ClosureId) (index : Nat) :
    k.toState.Checks [.node (.closure parent), .templateOf parent, .callSite parent index]
      (k.findCallSite parent index) :=
  (checks_closure parent).bind fun x hx => by
    have live := requireClosure_ok.mp hx
    refine (checks_templateOf live).bind fun t ht => checks_one fun fault => ?_
    rw [lacks_callSite live (requireTemplate_ok.mp ht)]
    cases t.callSites[index]? <;> simp [throw, throwThe, MonadExceptOf.throw, pure, Except.pure]

/-- What the making of a child needs before a closure is made for it. -/
theorem checks_callSite (parent : ClosureId) (index : Nat) :
    k.toState.Checks (Call.callSite parent index).needs
      (k.findCallSite parent index >>= fun site => k.templates.require site.template) := by
  refine (checks_findCallSite parent index).bind fun site found => checks_one fun fault => ?_
  obtain ⟨x, hx, found⟩ := bind_eq_ok.mp found
  obtain ⟨t, ht, found⟩ := bind_eq_ok.mp found
  have declared : t.callSites[index]? = some site := by
    cases hs : t.callSites[index]? with
    | none => simp [hs, throw, throwThe, MonadExceptOf.throw] at found
    | some site' =>
      rw [hs] at found
      cases found
      rfl
  rw [lacks_childTemplate (requireClosure_ok.mp hx) (requireTemplate_ok.mp ht) declared,
    TemplateLibrary.require]
  cases k.templates.get? site.template <;> simp

/-- An instantiation that is refused has ended. -/
theorem instantiate_of_refuses {template : String} {parent : Option ClosureId}
    {params : List (String × Value)} {fault : Fault}
    (refuses : k.toState.Refuses (Call.instantiate template parent params).needs fault) :
    k.instantiate order template parent params = .done (.error fault) k := by
  have failed := (checks_instantiate template parent params fault).mpr refuses
  rw [instantiate_eq]
  cases ht : k.templates.require template with
  | error f =>
    rw [ht] at failed
    cases failed
    rfl
  | ok t =>
    rw [ht] at failed
    have dead : k.createClosure template parent = .error fault := failed
    simp only [dead]

/-- A child that is refused is so at once, or when its own instantiation is asked for. -/
theorem callSite_of_refuses (order : EdgeOrder κ) {parent : ClosureId} {index : Nat} {fault : Fault}
    (refuses : k.toState.Refuses (Call.callSite parent index).needs fault) :
    k.callSite order parent index = .done (.error fault) k ∨ ∃ template,
      ∃ next : Except Fault ClosureId → Kernel κ → Activity κ (Except Fault ClosureId),
        k.callSite order parent index = .call (.instantiate template (some parent) []) k next ∧
        next (.error fault) k = .done (.error fault) k ∧
        k.toState.Refuses (Call.instantiate template (some parent) []).needs fault := by
  have failed := (checks_callSite parent index fault).mpr refuses
  unfold callSite
  cases found : k.findCallSite parent index with
  | error f =>
    rw [found] at failed
    cases failed
    exact .inl rfl
  | ok site =>
    rw [found] at failed
    have missing := (checks_template site.template fault).mp failed
    exact .inr ⟨site.template, _, rfl, rfl, .here (refuses_one.mp missing)⟩

/-- An instantiation that lacks something ends at once, with that fault and the kernel as it was. -/
theorem ends_instantiate_of_refuses (order : EdgeOrder κ) {template : String}
    {parent : Option ClosureId} {params : List (String × Value)} {fault : Fault}
    (refuses : k.toState.Refuses (Call.instantiate template parent params).needs fault) :
    Steps (k.instantiate order template parent params) (.done (.error fault) k) ∧
      ∀ r k', Steps (k.instantiate order template parent params) (.done r k') →
        r = .error fault ∧ k' = k := by
  rw [instantiate_of_refuses refuses]
  refine ⟨.refl, fun r k' steps => ?_⟩
  obtain ⟨rfl, rfl⟩ := steps.of_done
  exact ⟨rfl, rfl⟩

/-- A call site that lacks something ends at once, with that fault and the kernel as it was. -/
theorem ends_callSite_of_refuses {parent : ClosureId} {index : Nat} {fault : Fault}
    (refuses : k.toState.Refuses (Call.callSite parent index).needs fault) :
    Steps (k.callSite order parent index) (.done (.error fault) k) ∧
      ∀ r k', Steps (k.callSite order parent index) (.done r k') →
        r = .error fault ∧ k' = k := by
  rcases callSite_of_refuses order refuses with
    ended | ⟨template, next, calls, passes, inner⟩
  · rw [ended]
    refine ⟨.refl, fun r k' steps => ?_⟩
    obtain ⟨rfl, rfl⟩ := steps.of_done
    exact ⟨rfl, rfl⟩
  · rw [calls]
    constructor
    · have made := (ends_instantiate_of_refuses order inner).1.bind next
      have ended : (Activity.done (.error fault) k).bind next = .done (.error fault) k := passes
      rw [ended] at made
      exact .head (.call order (.instantiate template (some parent) []) k next) made
    · intro r k' steps
      obtain ⟨o, reply, m, makes, ends⟩ := steps.of_call
      obtain ⟨rfl, rfl⟩ := (ends_instantiate_of_refuses o inner).2 reply m makes
      have ended : Steps (.done (.error fault) m) (.done r k') := passes ▸ ends
      obtain ⟨rfl, rfl⟩ := ended.of_done
      exact ⟨rfl, rfl⟩

/-- A call to build a closure that is refused ends with that fault, and has done nothing. -/
theorem ends_of_refuses {c : Call} (builds : c.builds = true) {fault : Fault}
    (refuses : k.toState.Refuses c.needs fault) (order : EdgeOrder κ) :
    Steps (c.activity order k) (.done (.error fault) k) ∧
      ∀ r k', Steps (c.activity order k) (.done r k') → r = .error fault ∧ k' = k := by
  cases c with
  | instantiate template parent params => exact ends_instantiate_of_refuses _ refuses
  | callSite parent index => exact ends_callSite_of_refuses refuses
  | run template => cases builds
  | drain => cases builds
  | drainEvents => cases builds

/-- An instantiation that fails without having been refused has made its closure. -/
theorem made_of_instantiate (accounted : k.Accounted) {template : String}
    {parent : Option ClosureId} {params : List (String × Value)} {n : Nat} {fault : Fault}
    (met : ∀ f, ¬ k.toState.Refuses (Call.instantiate template parent params).needs f)
    (h : EndsIn n (k.instantiate order template parent params) (.error fault) k') :
    ∃ rest, k.Chronicles (.closureCreated k.toState.nextClosure template parent :: rest) k' := by
  have checks := checks_instantiate (k := k) template parent params
  generalize result : ((.error fault : Except Fault ClosureId), k') = ended
  have ends := instantiates h
  rw [result] at ends
  cases ends with
  | @unknown f missing => exact absurd ((checks f).mp (by rw [missing]; rfl)) (met f)
  | @refused t f known dead => exact absurd ((checks f).mp (by rw [known, ← dead]; rfl)) (met f)
  | wired known made wires within =>
    obtain ⟨_, rfl, _⟩ := createClosure_spec made
    obtain ⟨_, rest, told⟩ := chronicles_wired order accounted made wires.steps
    rw [← result] at told
    exact ⟨rest, told⟩

/-- A child that cannot be made though it was not refused has made its closure. -/
theorem made_of_callSite (accounted : k.Accounted) {parent : ClosureId} {index n : Nat}
    {fault : Fault} (met : ∀ f, ¬ k.toState.Refuses (Call.callSite parent index).needs f)
    (h : EndsIn n (k.callSite order parent index) (.error fault) k') :
    ∃ template rest, k.Chronicles
      (.closureCreated k.toState.nextClosure template (some parent) :: rest) k' := by
  have checks := checks_callSite (k := k) parent index
  generalize result : ((.error fault : Except Fault ClosureId), k') = ended
  have ends := attaches h
  rw [result] at ends
  cases ends with
  | @unknown f missing => exact absurd ((checks f).mp (by rw [missing]; rfl)) (met f)
  | bound found builds binds => cases result
  | @unbuilt site inner f m i found failed within =>
    cases result
    refine ⟨site.template, made_of_instantiate accounted (fun f refuses => ?_) failed⟩
    rcases refuses_cons.mp refuses with lacks | ⟨_, refuses⟩
    · have missing := (checks_template site.template f).mpr (refuses_one.mpr lacks)
      exact met f ((checks f).mp (by rw [found]; exact missing))
    · exact met f (.here (refuses_one.mp refuses))
  | @unbound site inner child m m' f found builds binds =>
    cases result
    obtain ⟨_, built⟩ := builds.endsIn
    cases outcome_instantiate accounted built with
    | @kept _ rest live told =>
      obtain ⟨_, more, told⟩ := chronicles_unbound order told binds
      exact ⟨site.template, rest ++ more, told⟩

/-- A call to build a closure that fails was refused, or it has made its closure before. -/
theorem refused_or_made (accounted : k.Accounted) {c : Call} (builds : c.builds = true)
    {fault : Fault} (failed : Steps (c.activity order k) (.done (.error fault) k')) :
    k.toState.Refuses c.needs fault ∧ k' = k ∨ ∃ template parent rest,
      k'.told = k.told ++ .closureCreated k.toState.nextClosure template parent :: rest := by
  by_cases refused : ∃ f, k.toState.Refuses c.needs f
  · obtain ⟨f, refuses⟩ := refused
    obtain ⟨same, rfl⟩ := (ends_of_refuses builds refuses order).2 _ _ failed
    cases same
    exact .inl ⟨refuses, rfl⟩
  · have met (f : Fault) : ¬ k.toState.Refuses c.needs f := fun refuses => refused ⟨f, refuses⟩
    obtain ⟨n, ends⟩ := failed.endsIn
    cases c with
    | instantiate template parent params =>
      obtain ⟨rest, made⟩ := made_of_instantiate accounted met ends
      exact .inr ⟨template, parent, rest, made.told⟩
    | callSite parent index =>
      obtain ⟨template, rest, made⟩ := made_of_callSite accounted met ends
      exact .inr ⟨template, some parent, rest, made.told⟩
    | run template => cases builds
    | drain => cases builds
    | drainEvents => cases builds

/-- A command is refused exactly if something that it needs is not there, with the fault of the
first such thing, and then its statements have left the kernel as it was. A call that builds a closure, too, ends with
that fault if something is not there, and nothing has happened. If it fails for any other reason it
has made its closure before. -/
theorem refused_iff_lacking (h : k.Reachable) :
    (∀ order (c : Command κ) fault,
      ((c.perform order k).1 = .error fault ↔ k.toState.Refuses c.needs fault) ∧
      (k.toState.Refuses c.needs fault → (c.perform order k).2 = k)) ∧
    (∀ order (c : Call) fault, c.builds = true → k.toState.Refuses c.needs fault →
      Steps (c.activity order k) (.done (.error fault) k) ∧
      ∀ r k', Steps (c.activity order k) (.done r k') → r = .error fault ∧ k' = k) ∧
    ∀ order (c : Call) fault k', c.builds = true →
      Steps (c.activity order k) (.done (.error fault) k') →
      k.toState.Refuses c.needs fault ∧ k' = k ∨ ∃ template parent rest,
        k'.told = k.told ++ .closureCreated k.toState.nextClosure template parent :: rest := by
  refine ⟨fun order c fault => ?_, fun order c fault builds refuses =>
    ends_of_refuses builds refuses order, fun order c fault k' builds failed =>
    refused_or_made h.accounted builds failed⟩
  have checks := checks_attempt order k c
  cases attempt : c.attempt order k with
  | error f =>
    rw [Command.perform_of_error attempt]
    rw [attempt] at checks
    exact ⟨by simpa using checks fault, fun _ => rfl⟩
  | ok done =>
    rw [Command.perform_of_ok attempt]
    rw [attempt] at checks
    have met : ¬ k.toState.Refuses c.needs fault :=
      fun refuses => nomatch (checks fault).mpr refuses
    exact ⟨⟨nofun, fun refuses => absurd refuses met⟩, fun refuses => absurd refuses met⟩

/-- A template with a call site for rows. -/
def rowed : Template Unit := Template.empty.withCallSite 0 (.ofTemplate "Row")

/-- A kernel with a record, a collection of two items, and a closure with a call site for rows.
There is no template for these. -/
def stocked : Kernel Unit :=
  (Kernel.create .standard (TemplateLibrary.empty.insert "Form" rowed)).performAll .ascending
    [.createDatum "Cell" [] none, .createCollection "Rows" [.null, .null] none,
      .createClosure "Form" none]

/-- There is no third item, a subscription between dead nodes is refused for its source, and the
child of the call site cannot be made. Nothing of this leaves a mark. -/
theorem refused_iff_lacking_stocked : stocked.Reachable ∧
    (Command.setItem ⟨1⟩ 2 .null : Command Unit).perform .ascending stocked =
      (.error (.itemIndexOutOfRange ⟨1⟩ 2 2), stocked) ∧
    (Command.subscribe (.datum ⟨5⟩) (.closure ⟨5⟩) .structural () : Command Unit).perform .ascending
      stocked = (.error (.unknownDatum ⟨5⟩), stocked) ∧
    Steps (stocked.callSite .ascending ⟨0⟩ 0)
      (.done (.error (.unknownTemplate "Row")) stocked) := by
  have reachable : stocked.Reachable := reachable_performAll ..
  obtain ⟨commands, calls, _⟩ := refused_iff_lacking reachable
  have refused {c : Command Unit} {fault : Fault}
      (refuses : stocked.toState.Refuses c.needs fault) :
      c.perform .ascending stocked = (.error fault, stocked) :=
    Prod.ext ((commands .ascending c fault).1.mpr refuses)
      ((commands .ascending c fault).2 refuses)
  have rows : stocked.datums[(⟨1⟩ : DatumId)]? =
      some (.create "Rows" (.collection [.null, .null]) none 0) := rfl
  have form : stocked.closures[(⟨0⟩ : ClosureId)]? = some (.create "Form" none 0) := rfl
  have known : stocked.templates.get? "Form" = some rowed := rfl
  have declared : rowed.callSites[0]? = some (.ofTemplate "Row") := rfl
  refine ⟨reachable, refused ?_, refused ?_, (calls .ascending (.callSite ⟨0⟩ 0) _ rfl ?_).1⟩
  · refine .later (fun f h => ?_) (.later (fun f h => ?_) (.here (.item rows rfl (by decide))))
    · cases rows.symm.trans (lacks_datum.mp h).1
    · exact ((lacks_shape rows).mp h).1 rfl
  · exact .here (lacks_datum.mpr ⟨rfl, rfl⟩)
  · refine .later (fun f h => ?_) (.later (fun f h => ?_) (.later (fun f h => ?_)
      (.here (.childTemplate form known declared rfl))))
    · cases form.symm.trans (lacks_closure.mp h).1
    · cases known.symm.trans ((lacks_templateOf form).mp h).1
    · cases declared.symm.trans ((lacks_callSite form known).mp h).1

end Kernel

end ReactiveKernel
