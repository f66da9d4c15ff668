import ReactiveKernel.Proofs.Instantiation.Aftermath
import ReactiveKernel.Proofs.State.Tree

/-!
# The closures that calls return

An instantiation sees that its closure is live when all is wired. The calls that make a child or run
a root let host code in once more after that, and do not look again. The closure that they return
is in its place, unless that last host code has destroyed it.
-/

namespace ReactiveKernel

variable {κ : Type}

namespace State

/-- A closure is live and in its place in the tree. -/
structure Stands (s : State κ) (c : ClosureId) (template : String) (parent : Option ClosureId) :
    Prop where
  /-- It has this template and this parent. -/
  live : ∃ x, s.closures[c]? = some x ∧ x.template = template ∧ x.parent = parent
  /-- A parent is live and lists it as a child. -/
  listed : ∀ p, parent = some p → ∃ y, s.closures[p]? = some y ∧ c ∈ y.children
  /-- Without a parent it is a root. -/
  root : parent = none → c ∈ s.roots

variable {s t : State κ} {c : ClosureId}

/-- A closure stands in the graph of a state exactly if it is live. -/
theorem mem_closures_graph : c ∈ s.graph.closures ↔ ∃ x, s.closures[c]? = some x := by
  rw [← contains_closure, ← has_graph]
  rfl

/-- Whatever is live is in its place. -/
theorem Consistent.stands (consistent : s.Consistent) {x : Closure} (hx : s.closures[c]? = some x) :
    s.Stands c x.template x.parent :=
  ⟨⟨x, hx, rfl, rfl⟩, consistent.forest.complete.parent c x hx,
    fun parentless => mem_roots.mpr ⟨x, hx, parentless⟩⟩

end State

namespace Kernel

open State Activity

variable {k k' m : Kernel κ} {events : List TraceEvent} {order : EdgeOrder κ} {c : ClosureId}
  {template : String} {parent : Option ClosureId}

/-- A closure that is live after it was told to be made is still in its place in the tree. -/
theorem Chronicles.stands {rest : List TraceEvent}
    (told : k.Chronicles (.closureCreated c template parent :: rest) k') (live : c ∈ k'.closures) :
    k'.toState.Stands c template parent := by
  obtain ⟨x, hx, rfl, rfl⟩ := told.record live
  exact told.accounted.consistent.stands hx

/-- From a moment at which a closure stands, it stands later on as well, unless it was destroyed. -/
structure Spares (m k' : Kernel κ) (c : ClosureId) (template : String)
    (parent : Option ClosureId) : Prop where
  /-- It stands at first. -/
  before : m.toState.Stands c template parent
  /-- It is gone if it was announced to be destroyed, and stands if not. -/
  after : ∃ events, k'.told = m.told ++ events ∧
    (.closureDestroyed c ∈ events → c ∉ k'.closures) ∧
    (.closureDestroyed c ∉ events → k'.toState.Stands c template parent)

/-- What was announced decides whether a closure that stood still stands. -/
theorem Chronicles.spares (told : m.Chronicles events k') (accounted : m.Accounted)
    (stands : m.toState.Stands c template parent) : m.Spares k' c template parent := by
  obtain ⟨x, hx, rfl, rfl⟩ := stands.live
  have once : .closure c ∉ events.filterMap TraceEvent.made? := by
    have nodup := told.accounted.nodup
    rw [made_eq_told, told.told, List.filterMap_append] at nodup
    have given := accounted.consistent.issued.given (i := .closure c) (mem_closures hx)
    have made := (accounted.given (.closure c)).mpr given
    rw [made_eq_told] at made
    exact fun again => (List.nodup_append.mp nodup).2.2 _ made _ again rfl
  have decides := Graph.mem_closures_foldl (mem_closures_graph.mpr ⟨x, hx⟩) once
  have entry := Graph.lookup?_foldl (g := m.toState.graph) (.closure c) once
  rw [told.leads.foldl] at decides entry
  refine ⟨stands, events, told.told, fun destroyed live => ?_, fun spared => ?_⟩
  · obtain ⟨y, hy⟩ := exists_closure live
    exact decides.mp (mem_closures_graph.mpr ⟨y, hy⟩) destroyed
  · obtain ⟨y, hy⟩ := mem_closures_graph.mp (decides.mpr spared)
    have same := entry.resolve_right (lookup?_of_contains (contains_closure.mpr ⟨y, hy⟩))
    simp only [Graph.lookup?, getElem?_closures_graph, hx, hy, Option.map_some, Option.some.injEq,
      Prod.mk.injEq] at same
    have stands' := told.accounted.consistent.stands hy
    rwa [same.1, same.2] at stands'

/-- A closure that was instantiated stands when that has ended. -/
theorem stands_instantiate (accounted : k.Accounted) {params : List (String × Value)}
    (h : Steps (k.instantiate order template parent params) (.done (.ok c) m)) :
    m.Accounted ∧ m.toState.Stands c template parent := by
  obtain ⟨_, ends⟩ := h.endsIn
  cases outcome_instantiate accounted ends with
  | kept live told => exact ⟨told.accounted, told.stands live⟩

/-- How a child comes to be returned. -/
theorem returned_callSite (accounted : k.Accounted) {p : ClosureId} {index : Nat}
    (h : Steps (k.callSite order p index) (.done (.ok c) k')) : ∃ site inner m,
      k.findCallSite p index = .ok site ∧
      Steps (k.instantiate inner site.template (some p) []) (.done (.ok c) m) ∧
      Steps (reactTo site.binding (.attached p c) m) (.done (.ok ()) k') ∧
      m.Spares k' c site.template (some p) := by
  obtain ⟨_, ends⟩ := h.endsIn
  generalize result : ((.ok c : Except Fault ClosureId), k') = ended
  have ends := attaches ends
  rw [result] at ends
  cases ends with
  | unknown missing => cases result
  | unbuilt found builds within => cases result
  | unbound found builds binds => cases result
  | @bound site inner child m m' found builds binds =>
    cases result
    obtain ⟨built, stands⟩ := stands_instantiate accounted builds
    have safe := Contract.telling_drainStable.reactTo site.binding (.attached p c) built
    obtain ⟨events, told⟩ := (Contract.telling_sound.steps safe binds).2.chronicles
    exact ⟨site, inner, m, found, builds, binds, told.spares built stands⟩

/-- How a root comes to be returned. -/
theorem returned_run (accounted : k.Accounted) {name? : Option String}
    (h : Steps (k.run order name?) (.done (.ok c) k')) : ∃ name inner m report m',
      k.resolveRun name? = .ok name ∧
      Steps (k.instantiate inner name none []) (.done (.ok c) m) ∧
      Steps m.drain (.done (.ok report) m') ∧ k' = m'.log (.ran name c report.waves) ∧
      m.Spares k' c name none := by
  unfold run at h
  cases resolved : k.resolveRun name? with
  | error fault =>
    rw [resolved] at h
    cases h.of_done.1
  | ok name =>
    rw [resolved] at h
    obtain ⟨inner, r, m, builds, h⟩ := h.of_call
    cases r with
    | error fault => cases h.of_done.1
    | ok root =>
      obtain ⟨_, r, m', drains, h⟩ := h.of_call
      cases r with
      | error fault => cases h.of_done.1
      | ok report =>
        obtain ⟨returned, rfl⟩ := h.of_done
        cases returned
        have builds : Steps (k.instantiate inner name none []) (.done (.ok c) m) := builds
        obtain ⟨built, stands⟩ := stands_instantiate accounted builds
        have stable := Contract.telling_drainStable (κ := κ)
        have drained := (Contract.telling_sound.steps (stable.drain built) drains).2
        have logged := stable.act order (.log (.ran name c report.waves) rfl) drained.holds
        obtain ⟨events, told⟩ := (stable.passes_trans drained logged).chronicles
        exact ⟨name, inner, m, report, m', rfl, builds, drains, rfl, told.spares built stands⟩

/-- A child that is returned was built and stood in its place, and was then bound. A root that is
returned was built and was a root, and then the kernel was drained. Either of them is there at the
end, in its place, exactly if what ran last has not destroyed it. -/
theorem returned_unless_destroyed (h : k.Reachable) :
    (∀ order p index c k', Steps (k.callSite order p index) (.done (.ok c) k') →
      ∃ site inner m, k.findCallSite p index = .ok site ∧
        Steps (k.instantiate inner site.template (some p) []) (.done (.ok c) m) ∧
        Steps (reactTo site.binding (.attached p c) m) (.done (.ok ()) k') ∧
        m.Spares k' c site.template (some p)) ∧
    ∀ order name? c k', Steps (k.run order name?) (.done (.ok c) k') →
      ∃ name inner m report m', k.resolveRun name? = .ok name ∧
        Steps (k.instantiate inner name none []) (.done (.ok c) m) ∧
        Steps m.drain (.done (.ok report) m') ∧ k' = m'.log (.ran name c report.waves) ∧
        m.Spares k' c name none :=
  ⟨fun _ _ _ _ _ steps => returned_callSite h.accounted steps,
    fun _ _ _ _ steps => returned_run h.accounted steps⟩

/-- A kernel with a closure that has a call site with host code, and with a pending subscription. -/
def sited : Kernel Unit :=
  let form := Template.empty.withCallSite 0 ((CallSite.ofTemplate "Leaf").withBinding ())
  let templates := (TemplateLibrary.empty.insert "Form" form).insert "Leaf" Template.empty
  (Kernel.create .standard templates).performAll .ascending
    [.createClosure "Form" none, .createDatum "Cell" [] none,
     .subscribe (.datum ⟨0⟩) (.datum ⟨0⟩) .everything ()]

/-- Host code that does nothing. -/
def idler : Host Unit where
  order := .ascending
  behave _ _ := .pure (.ok ())

/-- Host code that destroys the newest closure. -/
def wrecker : Host Unit where
  order := .ascending
  behave _ _ := .command (.destroyClosure ⟨1⟩) fun _ => .pure (.ok ())

/-- A child that its host code spares stands at the end. -/
theorem returned_unless_destroyed_bound : sited.Reachable ∧ ∃ k',
    Steps (sited.callSite .ascending ⟨0⟩ 0) (.done (.ok ⟨1⟩) k') ∧
      k'.toState.Stands ⟨1⟩ "Leaf" (some ⟨0⟩) := by
  have reachable : sited.Reachable := reachable_performAll ..
  let all : List TraceEvent := [.closureCreated ⟨0⟩ "Form" none, .datumCreated ⟨0⟩ "Cell" none,
    .subscribed ⟨0⟩ (.datum ⟨0⟩) (.datum ⟨0⟩) .everything,
    .closureCreated ⟨1⟩ "Leaf" (some ⟨0⟩), .closureInstantiated ⟨1⟩ "Leaf"]
  obtain ⟨k', steps, told⟩ : ∃ k',
      Steps (sited.callSite .ascending ⟨0⟩ 0) (.done (.ok ⟨1⟩) k') ∧ k'.told = all :=
    idler.exists_steps 2 (.callSite ⟨0⟩ 0) sited told rfl
  obtain ⟨site, _, m, found, _, _, spares⟩ :=
    (returned_unless_destroyed reachable).1 _ _ _ _ _ steps
  obtain rfl : (CallSite.ofTemplate "Leaf").withBinding () = site := Except.ok.inj found
  obtain ⟨events, more, _, stands⟩ := spares.after
  refine ⟨reachable, k', steps, stands fun destroyed => ?_⟩
  have among : .closureDestroyed ⟨1⟩ ∈ all := by
    rw [← told, more]
    exact List.mem_append_right _ destroyed
  simp [all] at among

/-- Host code that binds a child, or that runs in the first drain of a root, can destroy what is
then returned. -/
theorem returned_but_destroyed : sited.Reachable ∧
    (∃ k', Steps (sited.callSite .ascending ⟨0⟩ 0) (.done (.ok ⟨1⟩) k') ∧ ⟨1⟩ ∉ k'.closures) ∧
    ∃ k', Steps (sited.run .ascending (some "Leaf")) (.done (.ok ⟨1⟩) k') ∧ ⟨1⟩ ∉ k'.closures := by
  have child : ∃ k', Steps (sited.callSite .ascending ⟨0⟩ 0) (.done (.ok ⟨1⟩) k') ∧
      decide (⟨1⟩ ∈ k'.closures) = false :=
    wrecker.exists_steps 2 (.callSite ⟨0⟩ 0) sited
      (fun k => decide ((⟨1⟩ : ClosureId) ∈ k.closures)) rfl
  have root : ∃ k', Steps (sited.run .ascending (some "Leaf")) (.done (.ok ⟨1⟩) k') ∧
      decide (⟨1⟩ ∈ k'.closures) = false :=
    wrecker.exists_steps 3 (.run (some "Leaf")) sited
      (fun k => decide ((⟨1⟩ : ClosureId) ∈ k.closures)) rfl
  simp only [decide_eq_false_iff_not] at child root
  exact ⟨reachable_performAll .., child, root⟩

end Kernel

end ReactiveKernel
