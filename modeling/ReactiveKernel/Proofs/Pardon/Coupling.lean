import ReactiveKernel.Proofs.Pardon.Beside

/-!
# Activities at the same point of two runs

Two activities are coupled when they are at the same point with kernels beside each other, and stay
so whatever they get back from host code and from calls. They part only where a callback has failed
and that is not passed over; from then on the journal tells of a failed callback, and no operation
takes that back.
-/

namespace ReactiveKernel

variable {κ α β : Type}

/-- A callback has ended with a fault. -/
def Occurrence.isFailure : Occurrence κ → Bool
  | .finished _ fault => fault.isSome
  | _ => false

namespace Kernel

/-- A callback has failed, as the journal tells. -/
def Faulted (k : Kernel κ) : Prop := ∃ o ∈ k.journal.toList, o.isFailure = true

instance (k : Kernel κ) : Decidable k.Faulted :=
  inferInstanceAs (Decidable (∃ o ∈ k.journal.toList, o.isFailure = true))

/-- The state is consistent, and a callback has failed. -/
structure Marred (k : Kernel κ) : Prop where
  /-- The state is consistent. -/
  consistent : k.toState.Consistent
  /-- A callback has failed. -/
  faulted : k.Faulted

end Kernel

/-- What the journal tells of failed callbacks is not taken back. -/
def Contract.retention (κ : Type) : Contract κ :=
  ⟨fun k => k.toState.Consistent, fun k k' => k.Faulted → k'.Faulted, fun _ _ => True⟩

namespace Kernel

variable {k k' : Kernel κ}

/-- The journal only grows. -/
theorem Faulted.of_journal (h : k.Faulted) {entries : List (Occurrence κ)}
    (journal : k'.journal.toList = k.journal.toList ++ entries) : k'.Faulted := by
  obtain ⟨o, told, failure⟩ := h
  exact ⟨o, journal ▸ List.mem_append_left entries told, failure⟩

/-- A failed callback is still told of when an entry is written. -/
theorem Marred.note (h : k.Marred) (o : Occurrence κ) : (k.note o).Marred :=
  ⟨h.consistent, h.faulted.of_journal (journal_note k o)⟩

/-- A failed callback is still told of when an event is announced. -/
theorem Marred.emit (h : k.Marred) (e : TraceEvent) : (k.emit e).Marred :=
  ⟨h.consistent, h.faulted.of_journal (journal_emit k e)⟩

end Kernel

namespace Contract

open Kernel

/-- All actions leave what is told of failed callbacks. -/
theorem retention_drainStable : (retention κ).DrainStable where
  refl _ := id
  trans h h' := h' ∘ h
  returns_refl _ := trivial
  returns_trans _ _ := trivial
  act _ _ _ action consistent := by
    obtain ⟨_, effect⟩ := action.effect consistent
    obtain ⟨_, journal, _⟩ := action.murmurs consistent
    exact ⟨effect.consistent consistent, fun faulted => faulted.of_journal journal, trivial⟩
  drainAct action consistent := by
    refine ⟨(consistency_drainStable.drainAct action consistent).holds, fun faulted => ?_, trivial⟩
    cases action with
    | emit e _ _ => exact faulted.of_journal (journal_emit _ e)
    | note o _ => exact faulted.of_journal (journal_note _ o)
    | reschedule s _ => exact faulted

/-- What is told of failed callbacks stays told in every run. -/
theorem retention_sound : (retention κ).Sound :=
  retention_drainStable.sound fun p k consistent => by
    obtain ⟨_, journal, _⟩ := murmurs_probe p k
    exact ⟨(consistency_sound.probe p k consistent).holds,
      fun faulted => faulted.of_journal journal, trivial⟩

end Contract

namespace Kernel

variable {k : Kernel κ}

/-- An operation takes no failure back. -/
theorem Marred.kernel {a : Activity κ α} (h : k.Marred)
    (keeps : a.Keeps (.retention κ) (fun _ k => k.toState.Consistent) k) : a.kernel.Marred :=
  ⟨keeps.holds_kernel, keeps.leads_kernel h.faulted⟩

/-- An operation that keeps to the contract takes no failure back. -/
theorem Marred.of_safe {a : Activity κ α} (h : k.Marred) (safe : a.Safe (.retention κ) k) :
    a.kernel.Marred :=
  h.kernel (safe.mono fun _ _ back => back.holds)

/-- The kernel of a failed callback is marred. -/
theorem marred_finishCallback (consistent : k.toState.Consistent) (n : Notification)
    (fault : Fault) : (k.finishCallback n (.error fault)).Marred := by
  refine ⟨consistent, .finished n (some fault), ?_, rfl⟩
  rw [finishCallback, journal_note]
  exact List.mem_append_right _ (List.mem_singleton_self _)

/-- What comes after an activity takes nothing back, so what is marred stays so. -/
theorem marred_bind {a : Activity κ α} {f : α → Kernel κ → Activity κ β} (h : a.kernel.Marred)
    (rest : ∀ x k, k.Marred → (f x k).kernel.Marred) : (a.bind f).kernel.Marred := by
  cases a with
  | done x k => exact rest x k h
  | react code occasion k next | host p k next | call c k next => exact h

end Kernel

namespace Contrast

open Activity Kernel

/-- Two activities at the same point of both runs, now and after every answer. They need not go on
alike after a callback has failed if that is not passed over, but then the journal tells of it. -/
inductive Coupled (C : Contrast) (ends : α → Kernel κ → α → Kernel κ → Prop) :
    Activity κ α → Activity κ α → Prop
  /-- Both have ended. -/
  | done {x x' : α} {k k' : Kernel κ} : ends x k x' k' → Coupled C ends (.done x k) (.done x' k')
  /-- The same host code is due. -/
  | react (code : κ) (occasion : Occasion) {within : Bool} {k k' : Kernel κ}
      {next next' : Except Fault Unit → Kernel κ → Activity κ α} : C.Beside within k k' →
      (∀ n, occasion = .notified n → within = true) →
      (∀ r m m', C.Bears occasion r → C.Beside within m m' →
        Coupled C ends (next r m) (next' (C.mend occasion r) m')) →
      (∀ r m, ¬C.Bears occasion r → m.toState.Consistent → (next r m).kernel.Marred) →
      Coupled C ends (.react code occasion k next) (.react code occasion k' next')
  /-- Host code makes the same requests. -/
  | host (p : Program κ (Except Fault Unit)) (occasion : Occasion) {within : Bool}
      {k k' : Kernel κ} {next next' : Except Fault Unit → Kernel κ → Activity κ α} :
      p.Overlooks C within → C.Beside within k k' →
      (∀ r m m', C.Bears occasion r → C.Beside within m m' →
        Coupled C ends (next r m) (next' (C.mend occasion r) m')) →
      (∀ r m, ¬C.Bears occasion r → m.toState.Consistent → (next r m).kernel.Marred) →
      Coupled C ends (.host p k next) (.host (p.amended (C.mend occasion)) k' next')
  /-- The same call is to be made. -/
  | call (c : Call) {within : Bool} {k k' : Kernel κ}
      {next next' : Except Fault c.Reply → Kernel κ → Activity κ α} : C.Beside within k k' →
      (∀ r r' m m', C.AnswersAlike within c r r' → C.Beside within m m' →
        Coupled C ends (next r m) (next' r' m')) →
      Coupled C ends (.call c k next) (.call c k' next')

/-- Both activities have ended with the same result. -/
def SameEnd (C : Contrast) (within : Bool) (x : α) (k : Kernel κ) (x' : α) (k' : Kernel κ) : Prop :=
  x' = x ∧ C.Beside within k k'

/-- Both calls have returned with the same answer, as far as answers are compared. -/
def Returned (C : Contrast) (within : Bool) (c : Call) (r : Except Fault c.Reply) (k : Kernel κ)
    (r' : Except Fault c.Reply) (k' : Kernel κ) : Prop :=
  C.AnswersAlike within c r r' ∧ C.Beside within k k'

variable {C : Contrast} {within : Bool} {k k' : Kernel κ} {order : EdgeOrder κ}
  {ends : α → Kernel κ → α → Kernel κ → Prop} {ends' : β → Kernel κ → β → Kernel κ → Prop}

/-! Outcomes and answers. -/

/-- Runs are compared whatever the outcome of host code is that is no callback. -/
theorem bears_other {occasion : Occasion} (other : ∀ n, occasion ≠ .notified n)
    (r : Except Fault Unit) : C.Bears occasion r := by
  cases occasion with
  | notified n => exact absurd rfl (other n)
  | instantiated c | attached parent child | invoked => exact .inr rfl

/-- Host code that is no callback has the same outcome in both runs. -/
theorem mend_other {occasion : Occasion} (other : ∀ n, occasion ≠ .notified n)
    (r : Except Fault Unit) : C.mend occasion r = r := by
  rw [mend_of_bears (bears_other other r)]
  cases occasion with
  | notified n => exact absurd rfl (other n)
  | instantiated c | attached parent child | invoked => rfl

theorem AnswersAlike.refl {c : Call} (r : Except Fault c.Reply) : C.AnswersAlike within c r r := by
  unfold AnswersAlike
  split <;> rfl

/-- Answers that are no reports are the same. -/
theorem AnswersAlike.eq {c : Call} {r r' : Except Fault c.Reply} (plain : C.viewReply c = id)
    (h : C.AnswersAlike within c r r') : r' = r := by
  unfold AnswersAlike at h
  split at h
  · exact h
  · rw [plain] at h
    cases r <;> cases r' <;> exact h

/-- Both drains have failed in the same way, or both have reports that are compared as the same. -/
theorem AnswersAlike.cases_drain {r r' : Except Fault DrainReport}
    (h : C.AnswersAlike within .drain r r') :
    (∃ fault, r = .error fault ∧ r' = .error fault) ∨
      ∃ report report', r = .ok report ∧ r' = .ok report' ∧ C.view report' = C.view report := by
  unfold AnswersAlike at h
  split at h
  · subst h
    cases r' with
    | error fault => exact .inl ⟨fault, rfl, rfl⟩
    | ok report => exact .inr ⟨report, report, rfl, rfl, rfl⟩
  · cases r with
    | error fault =>
      cases r' with
      | error fault' => exact .inl ⟨fault, rfl, congrArg Except.error (Except.error.inj h)⟩
      | ok report' => cases h
    | ok report =>
      cases r' with
      | error fault' => cases h
      | ok report' => exact .inr ⟨report, report', rfl, rfl, Except.ok.inj h⟩

/-! Activities. -/

/-- The ends of coupled activities are related by whatever follows from their relation. -/
theorem Coupled.mono {a a' : Activity κ α} {ends₁ ends₂ : α → Kernel κ → α → Kernel κ → Prop}
    (imp : ∀ x k x' k', ends₁ x k x' k' → ends₂ x k x' k') (h : C.Coupled ends₁ a a') :
    C.Coupled ends₂ a a' := by
  induction h with
  | done fits => exact .done (imp _ _ _ _ fits)
  | react code occasion beside drain _ parts ih =>
    exact .react code occasion beside drain ih parts
  | host p occasion overlooks beside _ parts ih =>
    exact .host p occasion overlooks beside ih parts
  | call c beside _ ih => exact .call c beside ih

/-- Coupled activities that are followed by coupled ones. -/
theorem Coupled.bind {a a' : Activity κ α} {f f' : α → Kernel κ → Activity κ β}
    (h : C.Coupled ends a a')
    (rest : ∀ x k x' k', ends x k x' k' → C.Coupled ends' (f x k) (f' x' k'))
    (marred : ∀ x k, k.Marred → (f x k).kernel.Marred) :
    C.Coupled ends' (a.bind f) (a'.bind f') := by
  induction h with
  | done fits => exact rest _ _ _ _ fits
  | react code occasion beside drain _ parts ih =>
    exact .react code occasion beside drain ih
      fun r m fails consistent => marred_bind (parts r m fails consistent) marred
  | host p occasion overlooks beside _ parts ih =>
    exact .host p occasion overlooks beside ih
      fun r m fails consistent => marred_bind (parts r m fails consistent) marred
  | call c beside _ ih => exact .call c beside ih

/-! Operations other than drains. -/

/-- Operations other than drains do the same in both runs. -/
theorem accordant (blind : order.Overlooks C.settle) :
    Accordant (C.Beside (κ := κ) within) (C.AnswersAlike within) order order where
  closures h := h.closures
  templates h := h.templates
  entryTemplate h := by rw [h.settings, C.entryTemplate]
  note o h := h.note o
  emit e h := h.emit e
  command c h := h.perform blind c
  setParams id params h := h.setParams id params
  instantiated alike := alike.eq rfl
  called alike := alike.eq rfl
  drained alike := by
    rcases alike.cases_drain with ⟨fault, rfl, rfl⟩ | ⟨report, report', rfl, rfl, same⟩
    · rfl
    · exact congrArg Except.ok (waves_eq_of_view same)

/-- Activities in accord are coupled. -/
theorem coupled_of_accord {a a' : Activity κ α}
    (h : Accord (C.Beside within) (C.AnswersAlike within) a a') :
    C.Coupled (C.SameEnd within) a a' := by
  induction h with
  | done x beside => exact .done ⟨rfl, beside⟩
  | call c beside _ ih => exact .call c beside ih
  | react code occasion other beside _ ih =>
    have free : ∀ n, occasion = .notified n → within = true := fun n same => absurd same (other n)
    refine .react code occasion beside free (fun r m m' _ back => ?_) fun r m fails _ => ?_
    · rw [mend_other other]
      exact ih r m m' back
    · exact absurd (bears_other other r) fails

end Contrast

end ReactiveKernel
