import ReactiveKernel.Proofs.Instantiation.Failure
import ReactiveKernel.Proofs.Trace.Narration

/-!
# What is left when an instantiation has ended

An instantiation that is not refused makes its closure first. If it succeeds, that closure is live
with the template and the parent that were asked for. If it fails, that closure is gone, and so is
all that was built below it, since nothing outlives what it was made for.
-/

namespace ReactiveKernel

variable {κ : Type}

/-- What was built below a closure, as events tell: the closure itself, and whatever was made for a
closure that was. -/
inductive Built (events : List TraceEvent) (c : ClosureId) : NodeId → Prop
  /-- The closure itself. -/
  | top : Built events c (.closure c)
  /-- A datum that was made for such a closure, or a closure that was made under it. -/
  | node {a : ClosureId} {e : TraceEvent} {node : NodeId} {label : String} :
    Built events c (.closure a) → e ∈ events → e.creates? = some (node, label, some a) →
    Built events c node

namespace State

variable {s : State κ} {events : List TraceEvent} {c : ClosureId}

/-- Nothing is left of a closure and of what was built below it. -/
structure FreeOf (s : State κ) (events : List TraceEvent) (c : ClosureId) : Prop where
  /-- The closure is gone. -/
  dead : c ∉ s.closures
  /-- No live closure descends from it. -/
  childless : ∀ b ∈ s.closures, ¬ s.Descends b c
  /-- What was built below it is gone. -/
  built : ∀ node, Built events c node → s.contains node = false
  /-- No live datum is owned by what was built below it. -/
  owned : ∀ (d : DatumId) (x : Datum), s.datums[d]? = some x →
    ∀ o, x.owner = some o → ¬ Built events c (.closure o)
  /-- No registered subscription starts or ends at what was built below it. -/
  untouched : ∀ (id : SubscriptionId) (e : Subscription), s.edges.subscriptions[id]? = some e →
    ¬ Built events c e.source ∧ ¬ Built events c e.target
  /-- No live closure lists it as a child. -/
  unlisted : ∀ (a : ClosureId) (x : Closure), s.closures[a]? = some x → c ∉ x.children

/-- What a live node is attached to is live. -/
theorem ListsComplete.holder_live (complete : s.ListsComplete) {node : NodeId} {label : String}
    {a : ClosureId} (h : s.graph.lookup? node = some (label, some a)) : a ∈ s.closures := by
  cases node with
  | datum d =>
    rw [Graph.lookup?, getElem?_datums_graph, Option.map_map] at h
    obtain ⟨x, hx, entry⟩ := Option.map_eq_some_iff.mp h
    obtain ⟨y, hy, _⟩ := complete.owner d x hx a (Prod.ext_iff.mp entry).2
    exact mem_closures hy
  | closure b =>
    rw [Graph.lookup?, getElem?_closures_graph, Option.map_map] at h
    obtain ⟨x, hx, entry⟩ := Option.map_eq_some_iff.mp h
    obtain ⟨y, hy, _⟩ := complete.parent b x hx a (Prod.ext_iff.mp entry).2
    exact mem_closures hy

/-- A live node stands in the graph that events lead to. -/
theorem lookup?_of_contains {node : NodeId} (live : s.contains node = true) :
    s.graph.lookup? node ≠ none := by
  cases node with
  | datum d =>
    obtain ⟨x, hx⟩ := contains_datum.mp live
    simp [Graph.lookup?, getElem?_datums_graph, hx]
  | closure b =>
    obtain ⟨x, hx⟩ := contains_closure.mp live
    simp [Graph.lookup?, getElem?_closures_graph, hx]

/-- What was built below a closure that is gone is gone. -/
theorem ListsComplete.built_dead (complete : s.ListsComplete) {g : Graph}
    (leads : g.Leads events s.graph) (once : (events.filterMap TraceEvent.made?).Nodup)
    (dead : c ∉ s.closures) {node : NodeId} (built : Built events c node) :
    s.contains node = false := by
  induction built with
  | top => exact Bool.eq_false_iff.mpr fun live => dead (Std.ExtTreeMap.contains_iff_mem.mp live)
  | @node a e node label _ member creates ih =>
    have entry := Graph.lookup?_replayed (g := g) node once member creates
    rw [leads.foldl] at entry
    refine Bool.eq_false_iff.mpr fun live => ?_
    have holder := complete.holder_live (entry.resolve_right (lookup?_of_contains live))
    exact Bool.eq_false_iff.mp ih (Std.ExtTreeMap.contains_iff_mem.mpr holder)

/-- Nothing is left of a closure that is gone, since whatever is live has a live holder. -/
theorem Consistent.freeOf (consistent : s.Consistent) {g : Graph}
    (leads : g.Leads events s.graph) (once : (events.filterMap TraceEvent.made?).Nodup)
    (dead : c ∉ s.closures) : s.FreeOf events c := by
  have gone {node : NodeId} (live : s.contains node = true) : ¬ Built events c node := fun built =>
    Bool.eq_false_iff.mp (consistent.forest.complete.built_dead leads once dead built) live
  refine ⟨dead, ?_, fun node built => Bool.eq_false_iff.mpr fun live => gone live built, ?_, ?_, ?_⟩
  · intro b live descends
    obtain ⟨x, hx⟩ := (consistent.forest.complete.below_of_descends live descends).top_live
    exact dead (mem_closures hx)
  · intro d x hx o owner
    obtain ⟨y, hy, _⟩ := consistent.forest.complete.owner d x hx o owner
    exact gone (contains_closure.mpr ⟨y, hy⟩)
  · intro id e he
    exact ⟨gone (consistent.indexed.source_live id e he),
      gone (consistent.indexed.target_live id e he)⟩
  · intro a x hx listed
    obtain ⟨_, y, hy, _⟩ := consistent.forest.sound.children a x hx c listed
    exact dead (mem_closures hy)

end State

namespace Kernel

open State Activity

/-- Events were announced that lead to what is there now, and all that was made is accounted for. -/
structure Chronicles (k : Kernel κ) (events : List TraceEvent) (k' : Kernel κ) : Prop where
  /-- What was made is accounted for. -/
  accounted : k'.Accounted
  /-- The events come last. -/
  told : k'.told = k.told ++ events
  /-- They tell of all changes of the graph. -/
  leads : k.toState.graph.Leads events k'.toState.graph

variable {k k' m : Kernel κ} {events more : List TraceEvent} {order : EdgeOrder κ} {n : Nat}

theorem Chronicles.trans (h : k.Chronicles events k') (h' : k'.Chronicles more m) :
    k.Chronicles (events ++ more) m :=
  ⟨h'.accounted, by rw [h'.told, h.told, List.append_assoc], h.leads.append h'.leads⟩

/-- Whatever was made was made once. -/
theorem Chronicles.once (h : k.Chronicles events k') :
    (events.filterMap TraceEvent.made?).Nodup := by
  have nodup := h.accounted.nodup
  rw [made_eq_told, h.told, List.filterMap_append] at nodup
  exact (List.nodup_append.mp nodup).2.1

/-- A closure that is gone when the events have happened has left nothing. -/
theorem Chronicles.freeOf (h : k.Chronicles events k') {c : ClosureId}
    (dead : c ∉ k'.closures) : k'.toState.FreeOf events c :=
  h.accounted.consistent.freeOf h.leads h.once dead

end Kernel

/-- What is made is accounted for, and whatever happens is announced. -/
def Contract.telling (κ : Type) : Contract κ :=
  ⟨Kernel.Accounted, Kernel.Unfolds, fun _ _ => True⟩

namespace Contract

open Kernel

/-- All actions are announced. -/
theorem telling_drainStable : (telling κ).DrainStable where
  refl := Unfolds.refl
  trans := Unfolds.trans
  returns_refl _ := trivial
  returns_trans _ _ := trivial
  act order _ _ action accounted :=
    ⟨(accounting_drainStable.act order action accounted).holds,
      (narration_drainStable.act order action accounted.consistent).leads, trivial⟩
  drainAct action accounted :=
    ⟨(accounting_drainStable.drainAct action accounted).holds,
      (narration_drainStable.drainAct action accounted.consistent).leads, trivial⟩

/-- Whatever happens in a run is announced. -/
theorem telling_sound : (telling κ).Sound :=
  telling_drainStable.sound fun p k accounted =>
    ⟨(accounting_sound.probe p k accounted).holds, unfolds_probe p k, trivial⟩

/-- Where control comes back, what has happened was announced. -/
theorem Passes.chronicles {k k' : Kernel κ} (h : (telling κ).Passes k k') :
    ∃ events, k.Chronicles events k' := by
  obtain ⟨events, told, leads⟩ := Unfolds.told h.leads
  exact ⟨events, h.holds, told, leads⟩

end Contract

namespace Kernel

open State Activity

variable {k k' m : Kernel κ} {events more : List TraceEvent} {order : EdgeOrder κ} {n : Nat}
  {template : String} {parent : Option ClosureId} {params : List (String × Value)}

/-- The making of a closure is announced. -/
theorem chronicles_createClosure {c : ClosureId} (accounted : k.Accounted)
    (h : k.createClosure template parent = .ok (c, k')) :
    k.Chronicles [.closureCreated c template parent] k' := by
  have acted := Contract.accounting_drainStable.act .ascending
    (.command (.createClosure template parent)) accounted
  rw [← createClosure_eq_perform .ascending h] at acted
  obtain ⟨live, rfl, state⟩ := createClosure_spec h
  refine ⟨acted.holds, ?_, .one ?_ ?_⟩
  · simp [told, journal_createClosure h]
  · intro c is
    obtain ⟨x, hx⟩ := exists_closure (live c is)
    exact has_graph.mpr (contains_closure.mpr ⟨x, hx⟩)
  · rw [state, graph_addClosure]

/-- A closure that has just been destroyed is not live. -/
theorem not_mem_raze (consistent : k.toState.Consistent) (order : EdgeOrder κ) (c : ClosureId) :
    c ∉ (k.raze order c).closures := by
  intro live
  rw [toState_raze consistent.indexed consistent.forest.sound] at live
  obtain ⟨y, hy⟩ := exists_closure live
  obtain ⟨stays, x, hx, _⟩ := closures_without_eq_some.mp hy
  exact stays (.self hx)

/-- What an instantiation comes to: it is refused and nothing has happened, or its closure is made
at once, and at the end it is live after a success and gone after a failure. -/
inductive Outcome (k : Kernel κ) (template : String) (parent : Option ClosureId) :
    Except Fault ClosureId → Kernel κ → Prop
  /-- It is refused. -/
  | refused (fault : Fault) : Outcome k template parent (.error fault) k
  /-- The closure is kept. -/
  | kept {k' : Kernel κ} {rest : List TraceEvent} (live : k.toState.nextClosure ∈ k'.closures)
    (told : k.Chronicles (.closureCreated k.toState.nextClosure template parent :: rest) k') :
    Outcome k template parent (.ok k.toState.nextClosure) k'
  /-- The closure is gone. -/
  | lost {k' : Kernel κ} {rest : List TraceEvent} (fault : Fault)
    (dead : k.toState.nextClosure ∉ k'.closures)
    (told : k.Chronicles (.closureCreated k.toState.nextClosure template parent :: rest) k') :
    Outcome k template parent (.error fault) k'

/-- The closure is made first, and whatever happens then comes after. -/
theorem chronicles_wired (order : EdgeOrder κ) (accounted : k.Accounted) {c : ClosureId}
    {t : Template κ} {k₁ : Kernel κ} {outcome : Except Fault Unit}
    (made : k.createClosure template parent = .ok (c, k₁))
    (wires : Steps ((k₁.setParams c params).wire c t) (.done outcome m)) :
    m.Accounted ∧ ∃ rest, k.Chronicles (.closureCreated c template parent :: rest)
      (m.concludeInstantiation order c template outcome).2 := by
  have stable := Contract.telling_drainStable (κ := κ)
  have created := chronicles_createClosure accounted made
  have given := stable.act order (.params c params) created.accounted
  have wired := (Contract.telling_sound.steps (stable.wire c t given.holds) wires).2
  have concluded := (stable.conclude order c template outcome wired.holds).2
  obtain ⟨rest, chronicles⟩ :=
    (stable.passes_trans given (stable.passes_trans wired concluded)).chronicles
  exact ⟨wired.holds, rest, created.trans chronicles⟩

/-- An instantiation is refused, or it makes its closure at once, which is live at the end exactly
if it succeeds. -/
theorem outcome_instantiate (accounted : k.Accounted) {r : Except Fault ClosureId}
    (h : EndsIn n (k.instantiate order template parent params) r k') :
    k.Outcome template parent r k' := by
  generalize result : (r, k') = ended
  have ends := instantiates h
  rw [result] at ends
  cases ends with
  | unknown missing =>
    cases result
    exact .refused _
  | refused known dead =>
    cases result
    exact .refused _
  | @wired t id k₁ m outcome i known made wires within =>
    obtain ⟨wired, rest, told⟩ := chronicles_wired order accounted made wires.steps
    obtain ⟨_, rfl, _⟩ := createClosure_spec made
    cases outcome with
    | error fault =>
      cases result
      let failed := m.log (.instantiateFailed k.toState.nextClosure template fault)
      have dead := not_mem_raze (k := failed) wired.consistent order k.toState.nextClosure
      exact .lost fault dead told
    | ok u =>
      simp only [concludeInstantiation] at result told
      split at result
      · next live =>
        cases result
        rw [if_pos live] at told
        exact .kept (Std.ExtTreeMap.contains_iff_mem.mp live) told
      · next gone =>
        cases result
        rw [if_neg gone] at told
        exact .lost _ (fun live => gone (Std.ExtTreeMap.contains_iff_mem.mpr live)) told

/-- Binding a child comes after making it, and so does removing it. -/
theorem chronicles_unbound (order : EdgeOrder κ) (told : k.Chronicles events m)
    {code : Option κ} {p c : ClosureId} {outcome : Except Fault Unit} {m' : Kernel κ}
    (binds : Steps (reactTo code (.attached p c) m) (.done outcome m')) :
    m'.Accounted ∧ ∃ more, k.Chronicles (events ++ more) (m'.raze order c) := by
  have stable := Contract.telling_drainStable (κ := κ)
  have bound := (Contract.telling_sound.steps
    (stable.reactTo code (.attached p c) told.accounted) binds).2
  have destroyed := stable.raze order c outcome bound.holds
  obtain ⟨more, chronicles⟩ := (stable.passes_trans bound destroyed.2).chronicles
  exact ⟨bound.holds, more, told.trans chronicles⟩

/-- A child that cannot be made, or bound, is gone as well. -/
theorem outcome_callSite (accounted : k.Accounted) {p : ClosureId} {index : Nat} {fault : Fault}
    (h : EndsIn n (k.callSite order p index) (.error fault) k') :
    ∃ template, k.Outcome template (some p) (.error fault) k' := by
  generalize result : ((.error fault : Except Fault ClosureId), k') = ended
  have ends := attaches h
  rw [result] at ends
  cases ends with
  | unknown missing =>
    cases result
    exact ⟨"", .refused _⟩
  | bound found builds binds => cases result
  | @unbuilt site inner fault' m i found failed within =>
    cases result
    exact ⟨site.template, outcome_instantiate accounted failed⟩
  | @unbound site inner child m m' fault' found builds binds =>
    cases result
    obtain ⟨_, built⟩ := builds.endsIn
    cases outcome_instantiate accounted built with
    | kept live told =>
      obtain ⟨bound, more, chronicles⟩ := chronicles_unbound order told binds
      exact ⟨site.template, .lost fault (not_mem_raze bound.consistent order _) chronicles⟩

/-- A kept closure is as it was asked for. -/
theorem Chronicles.record {c : ClosureId} {rest : List TraceEvent}
    (told : k.Chronicles (.closureCreated c template parent :: rest) k') (live : c ∈ k'.closures) :
    ∃ x, k'.closures[c]? = some x ∧ x.template = template ∧ x.parent = parent := by
  obtain ⟨x, hx⟩ := exists_closure live
  have entry := Graph.lookup?_replayed (g := k.toState.graph) (.closure c) told.once
    List.mem_cons_self rfl
  rw [told.leads.foldl] at entry
  have made := entry.resolve_right (lookup?_of_contains (contains_closure.mpr ⟨x, hx⟩))
  rw [Graph.lookup?, getElem?_closures_graph, hx] at made
  simp only [Option.map_some, Option.some.injEq, Prod.mk.injEq] at made
  exact ⟨x, hx, made.1, made.2⟩

end Kernel

end ReactiveKernel
