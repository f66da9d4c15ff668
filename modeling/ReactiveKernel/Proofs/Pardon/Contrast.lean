import ReactiveKernel.Proofs.State.Resettling
import ReactiveKernel.Proofs.Trace.Telling
import ReactiveKernel.Proofs.Twins.Likeness

/-!
# Runs that treat failed callbacks differently

Two runs are compared. The second one may have other settings, and its callbacks may return
normally where those of the first one fail. A contrast says in which of these ways the runs differ,
and from it follows what is to be compared of reports and of journals.
-/

namespace ReactiveKernel

variable {κ α : Type}

/-- The outcome of host code on an occasion if failures of callbacks are passed over. -/
def Occasion.pardon : Occasion → Except Fault Unit → Except Fault Unit
  | .notified _, _ => .ok ()
  | _, r => r

/-- The same requests with another outcome. -/
def Program.amended (mend : Except Fault Unit → Except Fault Unit)
    (p : Program κ (Except Fault Unit)) : Program κ (Except Fault Unit) :=
  p.bind fun r => .pure (mend r)

/-- Nothing is amended if outcomes stay as they are. -/
theorem Program.amended_id (p : Program κ (Except Fault Unit)) : p.amended id = p := p.bind_pure

/-- A report that tells of no failures. -/
def DrainReport.pardoned (r : DrainReport) : DrainReport := { r with callbackFailures := 0 }

namespace Occurrence

/-- What is left of a journal entry if failures of callbacks are passed over: no warning of a failed
callback, no fault where one has ended, and no failures in what is logged of a drain. -/
def pardoned : Occurrence κ → Option (Occurrence κ)
  | .finished n _ => some (.finished n none)
  | .logged (.callbackFailed ..) => none
  | .logged (.drainEnded report overrun) => some (.logged (.drainEnded report.pardoned overrun))
  | o => some o

/-- A journal entry with changed settings where it tells of them. -/
def resettled (f : Settings → Settings) : Occurrence κ → Occurrence κ
  | .logged (.kernelCreated templates settings) => .logged (.kernelCreated templates (f settings))
  | o => o

end Occurrence

/-- How the second of two runs differs from the first one. -/
structure Contrast where
  /-- Its settings. -/
  settle : Settings → Settings
  /-- Whether its callbacks return normally where those of the first one fail. -/
  forgives : Bool
  /-- The limit of waves is the same. -/
  waveLimit : ∀ s, (settle s).waveLimit = s.waveLimit
  /-- The entry template is the same. -/
  entryTemplate : ∀ s, (settle s).entryTemplate = s.entryTemplate

namespace Contrast

variable (C : Contrast)

/-- The outcome of host code in the second run. -/
def mend (occasion : Occasion) (r : Except Fault Unit) : Except Fault Unit :=
  if C.forgives then occasion.pardon r else r

/-- The runs are compared no matter whether host code has this outcome. -/
def Bears (occasion : Occasion) (r : Except Fault Unit) : Prop :=
  C.forgives = true ∨ occasion.pardon r = r

/-- What is compared of the report of a drain. -/
def view (r : DrainReport) : DrainReport := if C.forgives then r.pardoned else r

/-- What is compared of the answer to a call. -/
def viewReply : (c : Call) → c.Reply → c.Reply
  | .drain | .drainEvents => C.view
  | .instantiate .. | .callSite .. | .run _ => id

/-- What is compared of a journal entry. -/
def heard (o : Occurrence κ) : Option (Occurrence κ) :=
  if C.forgives then (o.resettled C.settle).pardoned else some (o.resettled C.settle)

/-- What is compared of a journal. -/
def hears (k : Kernel κ) : List (Occurrence κ) := k.journal.toList.filterMap C.heard

/-- The answers to a call are the same as far as they are compared; within a drain, where no report
is ever returned, they are the same. -/
def AnswersAlike (within : Bool) (c : Call) (r r' : Except Fault c.Reply) : Prop :=
  if within then r' = r else r'.map (C.viewReply c) = r.map (C.viewReply c)

end Contrast

/-- Host code that goes on in the same way in both runs. -/
def Program.Overlooks (C : Contrast) (within : Bool) : Program κ α → Prop
  | .pure _ => True
  | .inspect next =>
    (∀ s, next (s.resettle C.settle) = next s) ∧ ∀ s, (next s).Overlooks C within
  | .probe _ next => ∀ r, (next r).Overlooks C within
  | .command _ next => ∀ r, (next r).Overlooks C within
  | .call c next =>
    (∀ r r', C.AnswersAlike within c r r' → next r' = next r) ∧
      ∀ r, (next r).Overlooks C within

/-- Within a drain there is less to overlook. -/
theorem Program.Overlooks.within {C : Contrast} {p : Program κ α} (h : p.Overlooks C false)
    (within : Bool) : p.Overlooks C within := by
  induction p with
  | pure a => trivial
  | inspect next ih => exact ⟨h.1, fun s => ih s (h.2 s)⟩
  | probe q next ih => exact fun r => ih r (h r)
  | command c next ih => exact fun r => ih r (h r)
  | call c next ih =>
    refine ⟨fun r r' alike => h.1 r r' ?_, fun r => ih r (h.2 r)⟩
    cases within with
    | false => exact alike
    | true =>
      obtain rfl : r' = r := alike
      rfl

namespace Contrast

variable {C : Contrast} {k k' : Kernel κ}

/-- The outcome in the second run is the first one with failures passed over, wherever runs are
compared. -/
theorem mend_of_bears {occasion : Occasion} {r : Except Fault Unit} (h : C.Bears occasion r) :
    C.mend occasion r = occasion.pardon r := by
  unfold mend
  split
  · rfl
  · next strict =>
    rcases h with forgives | same
    · exact absurd forgives strict
    · exact same.symm

/-! Reports. -/

/-- Reports that are the same as far as they are compared differ in the failures at most. -/
theorem pardoned_eq_of_view {r r' : DrainReport} (h : C.view r' = C.view r) :
    r'.pardoned = r.pardoned := by
  unfold view at h
  split at h
  · exact h
  · rw [h]

/-- Reports that are compared as the same tell of as many waves. -/
theorem waves_eq_of_view {r r' : DrainReport} (h : C.view r' = C.view r) :
    r'.waves = r.waves := by
  have same := congrArg DrainReport.waves (pardoned_eq_of_view h)
  exact same

/-- Reports that are compared as the same end in the same generation. -/
theorem endGeneration_eq_of_view {r r' : DrainReport} (h : C.view r' = C.view r) :
    r'.endGeneration = r.endGeneration := by
  have same := congrArg DrainReport.endGeneration (pardoned_eq_of_view h)
  exact same

/-- Reports stay the same for the comparison when a wave is opened. -/
theorem view_openWave {r r' : DrainReport} (h : C.view r' = C.view r) (generation : Nat) :
    C.view (r'.openWave generation) = C.view (r.openWave generation) := by
  unfold view at h ⊢
  split
  · next forgives =>
    rw [if_pos forgives, if_pos forgives] at h
    exact congrArg (DrainReport.openWave · generation) h
  · next strict =>
    rw [if_neg strict, if_neg strict] at h
    rw [h]

/-- The tallies of a wave are the same, but for failures that are passed over. -/
structure TalliesAlike (C : Contrast) (t t' : WaveTally) : Prop where
  /-- The same number of callbacks started. -/
  callbacks : t'.callbacks = t.callbacks
  /-- The same number of notifications was stale. -/
  stale : t'.stale = t.stale
  /-- The same number of callbacks failed, unless that is passed over. -/
  failures : C.forgives = true ∨ t'.failures = t.failures

/-- Reports stay the same for the comparison when a wave is closed. -/
theorem view_closeWave {r r' : DrainReport} {t t' : WaveTally} (h : C.view r' = C.view r)
    (tallies : C.TalliesAlike t t') : C.view (r'.closeWave t') = C.view (r.closeWave t) := by
  obtain ⟨callbacks, stale, failures⟩ := tallies
  unfold view at h ⊢
  split
  · next forgives =>
    rw [if_pos forgives, if_pos forgives] at h
    have same := congrArg (fun r : DrainReport => (r.closeWave t).pardoned) h
    rw [DrainReport.closeWave, callbacks, stale]
    exact same
  · next strict =>
    rw [if_neg strict, if_neg strict] at h
    rw [h, DrainReport.closeWave, callbacks, stale, failures.resolve_left strict]
    rfl

/-- What is counted of outside events does not matter for how reports are compared. -/
theorem view_withEvents {r r' : DrainReport} (h : C.view r' = C.view r) (applied rejected : Nat) :
    C.view { r' with eventsApplied := applied, eventsRejected := rejected } =
      C.view { r with eventsApplied := applied, eventsRejected := rejected } := by
  unfold view at h ⊢
  split
  · next forgives =>
    rw [if_pos forgives, if_pos forgives] at h
    exact congrArg (fun r : DrainReport =>
      { r with eventsApplied := applied, eventsRejected := rejected }) h
  · next strict =>
    rw [if_neg strict, if_neg strict] at h
    rw [h]

/-! Journals. -/

/-- An entry adds to a journal what is compared of it. -/
theorem hears_note (k : Kernel κ) (o : Occurrence κ) :
    C.hears (k.note o) = C.hears k ++ (C.heard o).toList := by
  rw [hears, Kernel.journal_note, List.filterMap_append, hears]
  cases h : C.heard o <;> simp [h]

/-- An announcement adds to a journal what is compared of it. -/
theorem hears_emit (k : Kernel κ) (e : TraceEvent) :
    C.hears (k.emit e) = C.hears k ++ (k.announcement e).filterMap C.heard := by
  rw [hears, Kernel.journal_emit, List.filterMap_append, hears]

/-- The fault of a callback that has ended is not compared if failures are passed over. -/
theorem heard_finished (forgives : C.forgives = true) (n : Notification)
    (fault fault' : Option Fault) :
    C.heard (.finished n fault : Occurrence κ) = C.heard (.finished n fault') := by
  simp [heard, forgives, Occurrence.resettled, Occurrence.pardoned]

/-- The warning of a failed callback is not compared if failures are passed over. -/
theorem heard_callbackFailed (forgives : C.forgives = true) (id : SubscriptionId)
    (generation : Nat) (fault : Fault) :
    C.heard (.logged (.callbackFailed id generation fault) : Occurrence κ) = none := by
  simp [heard, forgives, Occurrence.resettled, Occurrence.pardoned]

/-- The ends of drains are compared as their reports are. -/
theorem heard_drainEnded {r r' : DrainReport} (h : C.view r' = C.view r) (overrun : Bool) :
    C.heard (.logged (.drainEnded r' overrun) : Occurrence κ) =
      C.heard (.logged (.drainEnded r overrun)) := by
  unfold view at h
  unfold heard
  split
  · next forgives =>
    rw [if_pos forgives, if_pos forgives] at h
    simp only [Occurrence.resettled, Occurrence.pardoned, h]
  · next strict =>
    rw [if_neg strict, if_neg strict] at h
    rw [h]

/-! Records. -/

/-- The sinks and recordings are the same, and so is what is compared of the journals. -/
def likeness (C : Contrast) (κ : Type) : Likeness κ where
  alike k k' := k'.tracer = k.tracer ∧ C.hears k' = C.hears k
  lists := Eq
  sees _ := Eq

/-- Records stay alike when the same entry is written. -/
theorem alike_note {k k' : Kernel κ} (o : Occurrence κ) (h : (C.likeness κ).alike k k') :
    (C.likeness κ).alike (k.note o) (k'.note o) :=
  ⟨h.1, by rw [hears_note, hears_note, h.2]⟩

/-- Records stay alike when the same event is announced. -/
theorem alike_emit {k k' : Kernel κ} (e : TraceEvent) (h : (C.likeness κ).alike k k') :
    (C.likeness κ).alike (k.emit e) (k'.emit e) := by
  have told : k'.announcement e = k.announcement e := by
    unfold Kernel.announcement
    rw [h.1]
  refine ⟨congrArg (Tracer.record · e) h.1, ?_⟩
  rw [hears_emit, hears_emit, h.2, told]

/-- A probe has the same answer, and leaves records alike. -/
theorem alike_probe (p : Probe) {k k' : Kernel κ} (h : (C.likeness κ).alike k k') :
    (p.perform k).1 = (p.perform k').1 ∧
      (C.likeness κ).alike (p.perform k).2 (p.perform k').2 := by
  obtain ⟨answer, tracer⟩ := Likeness.probe_of_tracer p h.1.symm
  refine ⟨answer, tracer.symm, ?_⟩
  cases p with
  | remark text => exact (alike_note (.remarked text) h).2
  | _ => exact h.2

/-- Whatever is done alike keeps records alike. -/
theorem likeness_sound : (C.likeness κ).Sound :=
  Likeness.sound_of_eq rfl (fun _ _ h => h) (fun o h => alike_note o h)
    (fun e h => alike_emit e h) fun p h => alike_probe p h

end Contrast

end ReactiveKernel
