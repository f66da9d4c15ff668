import ReactiveKernel.Proofs.Effect.Murmurs
import ReactiveKernel.Proofs.Pardon.Contrast
import ReactiveKernel.Proofs.Twins.Lockstep

/-!
# Kernels at the same point of two runs

The kernels of two runs are beside each other when they have the same state, but for the settings,
and the same records, as far as they are compared. Commands, instruments and the parts of a drain
keep them so.
-/

namespace ReactiveKernel

variable {κ : Type}

theorem Kernel.consistent_resettle {k : Kernel κ} (consistent : k.toState.Consistent)
    (f : Settings → Settings) : (k.resettle f).toState.Consistent := by
  have same : k.toState.SameLinks (k.resettle f).toState :=
    ⟨rfl, rfl, fun _ => rfl, fun _ => rfl⟩
  exact same.consistent consistent consistent.issued.pending

namespace Contrast

/-- Kernels at the same point of two runs, within a drain or outside. -/
structure Beside (C : Contrast) (within : Bool) (k k' : Kernel κ) : Prop where
  /-- They are alike but for the settings. -/
  alike : (C.likeness κ).Alike (k.resettle C.settle) k'
  /-- The state is consistent. -/
  consistent : k.toState.Consistent
  /-- Whether a drain is running. -/
  draining : k.schedule.draining = within
  /-- Where failures are passed over, they do not stop a drain. -/
  policy : C.forgives = true → k.settings.onFailure = .log

namespace Beside

variable {C : Contrast} {within : Bool} {k k' m m' : Kernel κ} {order : EdgeOrder κ}

/-- Kernels beside one another are twins under the same settings. -/
theorem twins (h : C.Beside within k k') :
    (C.likeness κ).Twins (k.resettle C.settle) k' :=
  ⟨h.alike, Kernel.consistent_resettle h.consistent C.settle⟩

/-- The states differ in settings at most. -/
theorem state (h : C.Beside within k k') : k'.toState = k.toState.resettle C.settle :=
  h.alike.state.symm

theorem edges (h : C.Beside within k k') : k'.edges = k.edges := by rw [h.state]; rfl

theorem closures (h : C.Beside within k k') : k'.closures = k.closures := by rw [h.state]; rfl

theorem templates (h : C.Beside within k k') : k'.templates = k.templates := by rw [h.state]; rfl

theorem schedule (h : C.Beside within k k') : k'.schedule = k.schedule := by rw [h.state]; rfl

/-- The settings of the second kernel are changed as the contrast says. -/
theorem settings (h : C.Beside within k k') : k'.settings = C.settle k.settings := by
  rw [h.state]
  rfl

/-- A drain is running in the second kernel exactly within a drain. -/
theorem draining' (h : C.Beside within k k') : k'.schedule.draining = within := by
  rw [h.schedule]
  exact h.draining

theorem idle (h : C.Beside within k k') :
    k'.schedule.pending.isEmpty = k.schedule.pending.isEmpty := by
  rw [h.schedule]

theorem generation (h : C.Beside within k k') : k'.generation = k.generation :=
  congrArg Schedule.generation h.schedule

/-- What operations other than drains do keeps kernels beside each other. -/
theorem of_action (h : C.Beside within k k') (action : k.Action order m)
    (alike : (C.likeness κ).Alike (m.resettle C.settle) m') : C.Beside within m m' := by
  obtain ⟨_, effect⟩ := action.effect h.consistent
  refine ⟨alike, effect.consistent h.consistent, effect.draining.trans h.draining, ?_⟩
  rw [effect.settings]
  exact h.policy

/-! Instruments. -/

/-- Entries that are the same as far as they are compared. -/
theorem note_like (h : C.Beside within k k') (o o' : Occurrence κ) (same : C.heard o' = C.heard o) :
    C.Beside within (k.note o) (k'.note o') := by
  have heard : C.hears (k'.note o') = C.hears (k.note o) := by
    rw [hears_note, hears_note, same]
    exact congrArg (· ++ _) h.alike.records.2
  exact ⟨⟨h.alike.state, h.alike.records.1, heard⟩, h.consistent, h.draining, h.policy⟩

/-- An entry that is not compared is written in the first journal only. -/
theorem note_unheard (h : C.Beside within k k') (o : Occurrence κ) (unheard : C.heard o = none) :
    C.Beside within (k.note o) k' := by
  have heard : C.hears k' = C.hears (k.note o) := by
    rw [hears_note, unheard]
    exact h.alike.records.2.trans (List.append_nil _).symm
  exact ⟨⟨h.alike.state, h.alike.records.1, heard⟩, h.consistent, h.draining, h.policy⟩

theorem note (h : C.Beside within k k') (o : Occurrence κ) :
    C.Beside within (k.note o) (k'.note o) :=
  h.note_like o o rfl

theorem log (h : C.Beside within k k') (e : LogEvent) : C.Beside within (k.log e) (k'.log e) :=
  h.note _

theorem emit (h : C.Beside within k k') (e : TraceEvent) :
    C.Beside within (k.emit e) (k'.emit e) :=
  ⟨likeness_sound.alike_emit e h.alike, h.consistent, h.draining, h.policy⟩

/-- A probe has the same answer, and leaves kernels beside one another. -/
theorem probe (h : C.Beside within k k') (p : Probe) :
    (p.perform k').1 = (p.perform k).1 ∧ C.Beside within (p.perform k).2 (p.perform k').2 := by
  obtain ⟨seen, twins⟩ := likeness_sound.twins_probe p h.twins
  rw [p.perform_resettle] at seen twins
  have state := Kernel.toState_probe p k
  exact ⟨Eq.symm seen, twins.toAlike, by rw [state]; exact h.consistent,
    by rw [state]; exact h.draining, by rw [state]; exact h.policy⟩

/-! Commands and other actions outside of drains. -/

/-- A command has the same answer, and leaves kernels beside one another. -/
theorem perform (h : C.Beside within k k') (blind : order.Overlooks C.settle) (c : Command κ) :
    (c.perform order k').1 = (c.perform order k).1 ∧
      C.Beside within (c.perform order k).2 (c.perform order k').2 := by
  have orders : (C.likeness κ).Orders order order := fun _ _ _ => rfl
  obtain ⟨answer, twins⟩ := likeness_sound.twins_perform orders c h.twins
  rw [c.perform_resettle blind] at answer twins
  exact ⟨answer.symm, h.of_action (.command c) twins.toAlike⟩

theorem setParams (h : C.Beside within k k') (id : ClosureId) (params : List (String × Value)) :
    C.Beside within (k.setParams id params) (k'.setParams id params) := by
  have twins := likeness_sound.twins_setParams id params h.twins
  rw [Kernel.setParams_resettle] at twins
  have action : k.Action .ascending (k.setParams id params) := .params id params
  exact h.of_action action twins.toAlike

theorem takeEvents (h : C.Beside within k k') :
    k'.takeEvents.1 = k.takeEvents.1 ∧ C.Beside within k.takeEvents.2 k'.takeEvents.2 := by
  have action : k.Action .ascending k.takeEvents.2 := .takeEvents
  have queue : k'.inbox = k.inbox := by rw [h.state]; rfl
  exact ⟨queue,
    h.of_action action (likeness_sound.twins_takeEvents h.twins).toAlike⟩

/-! Parts of drains. -/

/-- The schedules change, and nothing new is pending. -/
theorem reschedule (h : C.Beside within k k') (f : Schedule → Schedule) {within' : Bool}
    (fewer : ∀ id ∈ (f k.schedule).pending, id ∈ k.schedule.pending)
    (running : (f k.schedule).draining = within') :
    C.Beside within' (k.mapState fun t => { t with schedule := f t.schedule })
      (k'.mapState fun t => { t with schedule := f t.schedule }) := by
  have action : k.DrainAction (k.mapState fun t => { t with schedule := f k.schedule }) :=
    .reschedule (f k.schedule) fewer
  have alike := likeness_sound.alike_mapState
    (fun t : State κ => { t with schedule := f t.schedule }) h.alike
  have consistent := (Contract.consistency_drainStable.drainAct action h.consistent).holds
  exact ⟨alike, consistent, running, h.policy⟩

theorem discardPending (h : C.Beside within k k') :
    C.Beside within k.discardPending k'.discardPending :=
  h.reschedule Schedule.discard (by simp [Schedule.discard]) h.draining

theorem takeWave (h : C.Beside within k k') : k'.takeWave.1 = k.takeWave.1 ∧
    C.Beside within k.takeWave.2 k'.takeWave.2 := by
  simp only [Kernel.takeWave, State.generation, h.schedule]
  exact ⟨trivial,
    (h.reschedule Schedule.takeWave (by simp [Schedule.takeWave]) h.draining).note _⟩

theorem overrun (h : C.Beside within k k') : k'.overrun.1 = k.overrun.1 ∧
    C.Beside within k.overrun.2 k'.overrun.2 := by
  simp only [Kernel.overrun, State.generation, h.schedule, h.settings, C.waveLimit]
  exact ⟨trivial, h.discardPending.log _⟩

/-- A drain starts in both kernels. -/
theorem beginDrain (h : C.Beside within k k') : C.Beside true k.beginDrain k'.beginDrain := by
  simp only [Kernel.beginDrain, State.generation, h.schedule]
  exact (h.emit _).reschedule (fun s => { s with draining := true }) (fun _ here => here) rfl

theorem startCallback (h : C.Beside within k k') (n : Notification) :
    C.Beside within (k.startCallback n) (k'.startCallback n) :=
  (h.emit _).note _

/-- A drain ends in both kernels, with reports that are compared as the same. -/
theorem endDrain (h : C.Beside within k k') (outcome : Except Fault Unit)
    {report report' : DrainReport} (same : C.view report' = C.view report) :
    C.Beside false (k.endDrain outcome report) (k'.endDrain outcome report') := by
  have stopped := h.reschedule (fun s => { s with draining := false }) (fun _ here => here) rfl
  simp only [Kernel.endDrain, waves_eq_of_view same, endGeneration_eq_of_view same]
  exact (stopped.emit _).note_like _ _ (heard_drainEnded same _)

end Beside

end Contrast

end ReactiveKernel
