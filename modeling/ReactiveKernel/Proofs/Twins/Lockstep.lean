import ReactiveKernel.Proofs.Run.Accord
import ReactiveKernel.Proofs.Twins.Command

/-!
# Operations in lockstep

Two activities are paired when they are at the same point with twins, and stay paired whatever twins
they get back from host code and from calls. What a call does with twins is paired. So runs from
twins go through the same points, if host code does not look at what their records differ in.
-/

namespace ReactiveKernel

variable {κ α β : Type}

/-- Host code that goes on in the same way when the instruments are seen alike. -/
def Program.Blind (L : Likeness κ) : Program κ α → Prop
  | .pure _ => True
  | .inspect next => ∀ s, (next s).Blind L
  | .probe p next => (∀ r r', L.sees p r r' → next r = next r') ∧ ∀ r, (next r).Blind L
  | .command _ next => ∀ r, (next r).Blind L
  | .call _ next => ∀ r, (next r).Blind L

namespace Likeness

variable {L : Likeness κ}

/-- Two activities at the same point with twins, now and after every answer. -/
abbrev Paired (L : Likeness κ) : Activity κ α → Activity κ α → Prop :=
  Activity.Lockstep L.Twins fun p => p.Blind L

variable {k k' : Kernel κ} {order order' : EdgeOrder κ}

namespace Sound

section

variable (sound : L.Sound)

include sound

theorem twins_note (o : Occurrence κ) (h : L.Twins k k') : L.Twins (k.note o) (k'.note o) :=
  ⟨sound.alike_note o h.toAlike, h.consistent⟩

theorem twins_log (e : LogEvent) (h : L.Twins k k') : L.Twins (k.log e) (k'.log e) :=
  sound.twins_note _ h

theorem twins_emit (e : TraceEvent) (h : L.Twins k k') : L.Twins (k.emit e) (k'.emit e) :=
  ⟨sound.alike_emit e h.toAlike, h.consistent⟩

/-- The schedules change, and nothing new is pending. -/
theorem twins_reschedule (f : Schedule → Schedule)
    (fewer : ∀ s, ∀ id ∈ (f s).pending, id ∈ s.pending) (h : L.Twins k k') :
    L.Twins (k.mapState fun t => { t with schedule := f t.schedule })
      (k'.mapState fun t => { t with schedule := f t.schedule }) := by
  have rescheduled : k.DrainAction (k.mapState fun t => { t with schedule := f k.schedule }) :=
    .reschedule (f k.schedule) (fewer k.schedule)
  exact ⟨sound.alike_mapState _ h.toAlike,
    (Contract.consistency_drainStable.drainAct rescheduled h.consistent).holds⟩

/-- The instruments show what is alike, and the state is not touched. -/
theorem twins_probe (p : Probe) (h : L.Twins k k') :
    L.sees p (p.perform k).1 (p.perform k').1 ∧ L.Twins (p.perform k).2 (p.perform k').2 := by
  obtain ⟨seen, records⟩ := sound.probe p h.records
  refine ⟨seen, ⟨?_, records⟩, ?_⟩
  · rw [Kernel.toState_probe, Kernel.toState_probe, h.state]
  · rw [Kernel.toState_probe]
    exact h.consistent

theorem twins_setParams (id : ClosureId) (params : List (String × Value)) (h : L.Twins k k') :
    L.Twins (k.setParams id params) (k'.setParams id params) :=
  ⟨sound.alike_mapState _ h.toAlike,
    (Kernel.setParams_effect k id params).consistent h.consistent⟩

theorem twins_takeEvents (h : L.Twins k k') : L.Twins k.takeEvents.2 k'.takeEvents.2 := by
  obtain ⟨_, effect⟩ := Kernel.Action.effect h.consistent
    (.takeEvents : k.Action .ascending k.takeEvents.2)
  exact ⟨sound.alike_mapState (fun s => { s with inbox := [] }) h.toAlike,
    effect.consistent h.consistent⟩

/-! Waves. -/

/-- The delivery of a wave is the same with twins. -/
theorem deliverable : Deliverable L.Twins where
  edges h := by rw [← h.state]
  schedule h := by rw [← h.state]
  onFailure h := by rw [← h.state]
  note o h := sound.twins_note o h
  emit e h := sound.twins_emit e h
  discardPending h := sound.twins_reschedule Schedule.discard (by simp [Schedule.discard]) h

theorem twins_takeWave (h : L.Twins k k') : L.Twins k.takeWave.2 k'.takeWave.2 := by
  simp only [Kernel.takeWave, ← h.state]
  exact sound.twins_note _
    (sound.twins_reschedule Schedule.takeWave (by simp [Schedule.takeWave]) h)

theorem twins_overrun (h : L.Twins k k') : L.Twins k.overrun.2 k'.overrun.2 := by
  simp only [Kernel.overrun, ← h.state]
  exact sound.twins_log _
    (sound.twins_reschedule Schedule.discard (by simp [Schedule.discard]) h)

/-- The waves of drains are paired. By induction on how many remain. -/
theorem paired_waves (remaining : Nat) (report : DrainReport) (h : L.Twins k k') :
    L.Paired (k.waves remaining report) (k'.waves remaining report) := by
  induction remaining generalizing report k k' with
  | zero =>
    unfold Kernel.waves
    rw [← h.state]
    split
    · exact .done _ h
    · have overrun := sound.twins_overrun h
      simp only [Kernel.overrun, ← h.state] at overrun ⊢
      exact .done _ overrun
  | succ remaining ih =>
    unfold Kernel.waves
    rw [← h.state]
    split
    · exact .done _ h
    · have taken := sound.twins_takeWave h
      have waves : k.takeWave.1 = k'.takeWave.1 := by
        simp only [Kernel.takeWave, ← h.state]
      simp only [← waves, ← taken.state]
      refine (sound.deliverable.deliver _ _ _ taken).bind fun r m m' back => ?_
      obtain ⟨outcome, tally⟩ := r
      cases outcome with
      | error fault => exact .done _ back
      | ok u => exact ih _ (sound.twins_emit _ back)

/-- Drains of twins are paired. -/
theorem paired_drain (h : L.Twins k k') : L.Paired k.drain k'.drain := by
  unfold Kernel.drain
  rw [← h.state]
  split
  · exact .done _ h
  · dsimp only
    split
    · exact .done _ h
    · have begun : L.Twins k.beginDrain k'.beginDrain := by
        simp only [Kernel.beginDrain, ← h.state]
        exact sound.twins_reschedule (fun s => { s with draining := true }) (fun _ _ here => here)
          (sound.twins_emit _ h)
      refine (sound.paired_waves _ _ begun).bind fun r m m' back => ?_
      obtain ⟨outcome, report⟩ := r
      refine .done _ (sound.twins_log _ (sound.twins_emit _ ?_))
      exact sound.twins_reschedule (fun s => { s with draining := false }) (fun _ _ here => here)
        back

end

variable (sound : L.Sound) (orders : L.Orders order order')

include sound orders

/-! Calls. -/

/-- Operations other than drains do the same with twins. -/
theorem accordant : Accordant L.Twins (fun _ => Eq) order order' where
  closures h := by rw [← h.state]
  templates h := by rw [← h.state]
  entryTemplate h := by rw [← h.state]
  note o h := sound.twins_note o h
  emit e h := sound.twins_emit e h
  command c h := by
    obtain ⟨reply, back⟩ := sound.twins_perform orders c h
    exact ⟨reply.symm, back⟩
  setParams id params h := sound.twins_setParams id params h
  instantiated := Eq.symm
  called := Eq.symm
  drained same := congrArg (Except.map DrainReport.waves) same.symm

/-- The intake of outside events by twins is paired. -/
theorem paired_drainEvents (h : L.Twins k k') :
    L.Paired (k.drainEvents order) (k'.drainEvents order') := by
  unfold Kernel.drainEvents
  rw [← h.state]
  split
  · exact .done _ h
  · have taken : L.Twins k.takeEvents.2 k'.takeEvents.2 := sound.twins_takeEvents h
    have queued : k.takeEvents.1 = k'.takeEvents.1 := congrArg State.inbox h.state
    simp only [← queued]
    have applied := (sound.accordant orders).applyEvents k.takeEvents.1 0 0 taken
    refine applied.lockstep.bind fun r m m' back => ?_
    refine .call .drain (sound.twins_log _ back) fun r n n' after => ?_
    cases r with
    | ok report => exact .done _ after
    | error fault => exact .done _ after

/-- What a call does with twins is paired. -/
theorem paired_activity (c : Call) (h : L.Twins k k') :
    L.Paired (c.activity order k) (c.activity order' k') := by
  have accordant := sound.accordant orders
  cases c with
  | instantiate template parent params =>
    exact (accordant.instantiate template parent params h).lockstep
  | callSite parent index => exact (accordant.callSite parent index h).lockstep
  | run template => exact (accordant.run template h).lockstep
  | drain => exact sound.paired_drain h
  | drainEvents => exact sound.paired_drainEvents orders h

end Sound

end Likeness

end ReactiveKernel
