import ReactiveKernel.Proofs.Drain.Stop
import ReactiveKernel.Proofs.Pardon.Coupling

/-!
# Drains at the same point of two runs

A failed callback changes nothing of its wave but the count of failures, unless it is to stop the
drain. So the waves of two runs are coupled, and the drains that consist of them end alike.
-/

namespace ReactiveKernel

variable {κ : Type}

namespace Contrast

open Activity Kernel

/-- Both waves were delivered to their ends, with tallies that are compared as the same. -/
def Delivered (C : Contrast) (x : Except Fault Unit × WaveTally) (k : Kernel κ)
    (x' : Except Fault Unit × WaveTally) (k' : Kernel κ) : Prop :=
  x.1 = .ok () ∧ x'.1 = .ok () ∧ C.TalliesAlike x.2 x'.2 ∧ C.Beside true k k'

/-- The waves of both drains came to the same end, with reports that are compared as the same. -/
def Halted (C : Contrast) (x : Except Fault Unit × DrainReport) (k : Kernel κ)
    (x' : Except Fault Unit × DrainReport) (k' : Kernel κ) : Prop :=
  x'.1 = x.1 ∧ C.view x'.2 = C.view x.2 ∧ C.Beside true k k'

variable {C : Contrast} {within : Bool} {k k' : Kernel κ} {order : EdgeOrder κ}
  {tally tally' : WaveTally} {report report' : DrainReport}

/-! One wave. -/

theorem TalliesAlike.refl (t : WaveTally) : C.TalliesAlike t t := ⟨rfl, rfl, .inr rfl⟩

/-- Tallies are still compared as the same when both count a subscription that is gone. -/
theorem TalliesAlike.skip (h : C.TalliesAlike tally tally') :
    C.TalliesAlike { tally with stale := tally.stale + 1 }
      { tally' with stale := tally'.stale + 1 } :=
  ⟨h.callbacks, congrArg (· + 1) h.stale, h.failures⟩

/-- Tallies are still compared as the same when both count a callback. -/
theorem TalliesAlike.call (h : C.TalliesAlike tally tally') :
    C.TalliesAlike { tally with callbacks := tally.callbacks + 1 }
      { tally' with callbacks := tally'.callbacks + 1 } :=
  ⟨congrArg (· + 1) h.callbacks, h.stale, h.failures⟩

/-- A failure is counted in the first run only. -/
theorem TalliesAlike.fail (h : C.TalliesAlike tally tally') (forgives : C.forgives = true) :
    C.TalliesAlike
      { tally with callbacks := tally.callbacks + 1, failures := tally.failures + 1 }
      { tally' with callbacks := tally'.callbacks + 1 } :=
  ⟨congrArg (· + 1) h.callbacks, h.stale, .inl forgives⟩

/-- The delivery of a wave is coupled. By induction on its turns. -/
theorem coupled_deliver (h : C.Beside true k k') (tallies : C.TalliesAlike tally tally')
    (generation : Nat) (wave : List SubscriptionId) :
    C.Coupled C.Delivered (k.deliver generation wave tally)
      (k'.deliver generation wave tally') := by
  have stable := (Contract.retention_drainStable (κ := κ)).toDrainable.toWaveStable
  induction wave generalizing tally tally' k k' with
  | nil => exact .done ⟨rfl, rfl, tallies, h⟩
  | cons id rest ih =>
    simp only [deliver, h.edges]
    cases k.edges.callback? id with
    | none => exact ih (h.log _) tallies.skip
    | some registered =>
      obtain ⟨e, code⟩ := registered
      refine .react code _ (h.startCallback ⟨id, e.source, e.target, generation⟩)
        (fun _ _ => rfl) (fun r m m' bears back => ?_) fun r m fails consistent => ?_
      · rw [mend_of_bears bears]
        cases r with
        | ok u => exact ih (back.note _) tallies.call
        | error fault =>
          have forgives : C.forgives = true := bears.resolve_right nofun
          have policy : (m.finishCallback ⟨id, e.source, e.target, generation⟩
              (.error fault)).settings.onFailure = .log := back.policy forgives
          have ended : C.Beside true
              (m.finishCallback ⟨id, e.source, e.target, generation⟩ (.error fault))
              (m'.finishCallback ⟨id, e.source, e.target, generation⟩ (.ok ())) :=
            back.note_like _ _ (heard_finished forgives _ _ _)
          simp only [policy]
          exact ih (ended.note_unheard _ (heard_callbackFailed forgives id generation fault))
            (tallies.fail forgives)
      · cases r with
        | ok u => exact absurd (.inr rfl) fails
        | error fault =>
          have marred := marred_finishCallback consistent
            ⟨id, e.source, e.target, generation⟩ fault
          dsimp only
          split
          · have logged := marred.note (.logged (.callbackFailed id generation fault))
            exact logged.of_safe (stable.deliver _ _ _ logged.consistent)
          · exact marred.of_safe (stable.discard rfl _ marred.consistent)

/-- The next wave is coupled. -/
theorem coupled_nextWave (h : C.Beside true k k') :
    C.Coupled C.Delivered k.nextWave k'.nextWave := by
  obtain ⟨wave, taken⟩ := h.takeWave
  unfold nextWave
  rw [wave, taken.generation]
  exact coupled_deliver taken (.refl _) _ _

/-! Waves. -/

/-- What comes after a wave takes nothing back. -/
theorem marred_goOn {m : Kernel κ} (marred : m.Marred) (k : Kernel κ) (remaining : Nat)
    (report : DrainReport) (r : Except Fault Unit × WaveTally) :
    (k.goOn remaining report r m).kernel.Marred := by
  have stable := (Contract.retention_drainStable (κ := κ)).toDrainable.toWaveStable
  obtain ⟨outcome, tally⟩ := r
  cases outcome with
  | error fault => exact marred
  | ok u =>
    have announced : (k.concludeWave m tally).Marred := marred.emit _
    exact announced.of_safe (stable.waves remaining _ announced.consistent)

/-- The waves of drains are coupled. By induction on how many remain. -/
theorem coupled_waves (h : C.Beside true k k') (same : C.view report' = C.view report)
    (remaining : Nat) :
    C.Coupled C.Halted (k.waves remaining report) (k'.waves remaining report') := by
  induction remaining generalizing report report' k k' with
  | zero =>
    cases pending : k.schedule.pending.isEmpty with
    | true =>
      rw [waves_of_nothing 0 report pending,
        waves_of_nothing 0 report' (h.idle.trans pending)]
      exact .done ⟨rfl, same, h⟩
    | false =>
      obtain ⟨fault, overrun⟩ := h.overrun
      rw [waves_zero report pending, waves_zero report' (h.idle.trans pending), fault]
      exact .done ⟨rfl, same, overrun⟩
  | succ remaining ih =>
    cases pending : k.schedule.pending.isEmpty with
    | true =>
      rw [waves_of_nothing _ report pending,
        waves_of_nothing _ report' (h.idle.trans pending)]
      exact .done ⟨rfl, same, h⟩
    | false =>
      rw [waves_succ _ report pending,
        waves_succ _ report' (h.idle.trans pending)]
      refine (coupled_nextWave h).bind ?_ fun r m marred => marred_goOn marred k remaining report r
      rintro ⟨_, t⟩ m ⟨_, t'⟩ m' ⟨rfl, rfl, tallies, back⟩
      have generation := h.takeWave.2.generation
      have counted : C.view (k'.countWave report' t') = C.view (k.countWave report t) := by
        unfold countWave
        rw [generation]
        exact view_closeWave (view_openWave same _) tallies
      have concluded : C.Beside true (k.concludeWave m t) (k'.concludeWave m' t') := by
        unfold concludeWave
        rw [generation, tallies.callbacks]
        exact back.emit _
      exact ih concluded counted

/-! Drains. -/

/-- Drains are coupled. -/
theorem coupled_drain (h : C.Beside within k k') :
    C.Coupled (C.Returned within .drain) k.drain k'.drain := by
  cases running : within with
  | true =>
    subst running
    have refused : k.drain = .done (.error .reentrant) k := if_pos h.draining
    have refused' : k'.drain = .done (.error .reentrant) k' :=
      if_pos h.draining'
    rw [refused, refused']
    exact .done ⟨.refl _, h⟩
  | false =>
    subst running
    cases pending : k.schedule.pending.isEmpty with
    | true =>
      rw [drain_of_nothing h.draining pending,
        drain_of_nothing h.draining' (h.idle.trans pending), h.generation]
      exact .done ⟨.refl _, h⟩
    | false =>
      have limit : k'.settings.waveLimit = k.settings.waveLimit := by
        rw [h.settings, C.waveLimit]
      rw [drain_of_due h.draining pending,
        drain_of_due h.draining' (h.idle.trans pending), h.generation, limit]
      refine (coupled_waves h.beginDrain rfl _).bind ?_ fun r m marred => ?_
      · rintro ⟨_, report⟩ m ⟨outcome, report'⟩ m' ⟨rfl, same, back⟩
        refine .done ⟨?_, back.endDrain _ same⟩
        cases outcome with
        | error fault => exact .refl _
        | ok u => exact congrArg Except.ok same
      · have ended := Contract.retention_drainStable.endDrain r.1 r.2 marred.consistent
        exact ⟨ended.holds, ended.leads marred.faulted⟩

/-- The intake of outside events is coupled. -/
theorem coupled_drainEvents (h : C.Beside within k k') (blind : order.Overlooks C.settle) :
    C.Coupled (C.Returned within .drainEvents) (k.drainEvents order) (k'.drainEvents order) := by
  cases running : within with
  | true =>
    subst running
    have refused : k.drainEvents order = .done (.error .reentrant) k := if_pos h.draining
    have refused' : k'.drainEvents order = .done (.error .reentrant) k' :=
      if_pos h.draining'
    rw [refused, refused']
    exact .done ⟨.refl _, h⟩
  | false =>
    subst running
    obtain ⟨queued, taken⟩ := h.takeEvents
    unfold Kernel.drainEvents
    rw [if_neg (by simp [h.draining]), if_neg (by simp [h.draining'])]
    simp only [queued]
    have applied := coupled_of_accord ((accordant blind).applyEvents k.takeEvents.1 0 0 taken)
    refine applied.bind ?_ fun r m marred => marred.note _
    rintro _ m ⟨applied, rejected⟩ m' ⟨rfl, back⟩
    refine .call .drain (back.log _) fun r r' n n' answers after => ?_
    rcases answers.cases_drain with ⟨fault, rfl, rfl⟩ | ⟨report, report', rfl, rfl, same⟩
    · exact .done ⟨.refl _, after⟩
    · exact .done ⟨congrArg Except.ok (view_withEvents same applied rejected), after⟩

/-- What a call does is the same in both runs. -/
theorem coupled_activity (h : C.Beside within k k') (blind : order.Overlooks C.settle) (c : Call) :
    C.Coupled (C.Returned within c) (c.activity order k) (c.activity order k') := by
  have accordant : Accordant (C.Beside within) (C.AnswersAlike within) order order :=
    accordant blind
  have returned {d : Call} {a a' : Activity κ (Except Fault d.Reply)}
      (accord : Accord (C.Beside within) (C.AnswersAlike within) a a') :
      C.Coupled (C.Returned within d) a a' := by
    refine (coupled_of_accord accord).mono ?_
    rintro r m _ m' ⟨rfl, beside⟩
    exact ⟨.refl _, beside⟩
  cases c with
  | instantiate template parent params => exact returned (accordant.instantiate _ _ _ h)
  | callSite parent index => exact returned (accordant.callSite parent index h)
  | run template => exact returned (accordant.run template h)
  | drain => exact coupled_drain h
  | drainEvents => exact coupled_drainEvents h blind

end Contrast

end ReactiveKernel
