import ReactiveKernel.Proofs.Trace.Removal

/-!
# What is written outside of drains

Every operation only adds entries to the journal. Those that tell of waves, of callbacks that start
and end, and of the end of a drain are written by drains alone. Host code that runs within a drain
therefore adds none of them, and it leaves the settings alone.
-/

namespace ReactiveKernel

variable {κ : Type}

namespace Kernel

/-- The journal gained entries, and none that only drains write. -/
def Murmurs (k k' : Kernel κ) : Prop :=
  ∃ entries, k'.journal.toList = k.journal.toList ++ entries ∧ Silent entries

variable {k k' k'' : Kernel κ} {order : EdgeOrder κ}

/-- The journal may stay as it is. -/
theorem Murmurs.of_journal (h : k'.journal = k.journal) : k.Murmurs k' :=
  ⟨[], by simp [h], by simp [Silent]⟩

theorem Murmurs.refl (k : Kernel κ) : k.Murmurs k := .of_journal rfl

/-- Gains of entries that others than drains write as well add up. -/
theorem Murmurs.trans (h : k.Murmurs k') (h' : k'.Murmurs k'') : k.Murmurs k'' := by
  obtain ⟨entries, journal, silent⟩ := h
  obtain ⟨more, journal', silent'⟩ := h'
  exact ⟨entries ++ more, by rw [journal', journal, List.append_assoc], silent.append silent'⟩

/-- Entries that recount an effect are not those that only drains write. -/
theorem Recounts.murmurs (h : k.Recounts k') : k.Murmurs k' := by
  obtain ⟨entries, tells, silent⟩ := h
  exact ⟨entries, tells.journal, silent⟩

/-- An operation other than a drain writes nothing that only drains write. -/
theorem Action.murmurs (consistent : k.toState.Consistent) (h : k.Action order k') :
    k.Murmurs k' :=
  (h.recounts consistent).murmurs

/-- A probe writes nothing that only drains write. -/
theorem murmurs_probe (p : Probe) (k : Kernel κ) : k.Murmurs (p.perform k).2 := by
  cases p with
  | remark text => exact ⟨[.remarked text], journal_note k _, List.forall_mem_singleton.mpr rfl⟩
  | _ => exact .of_journal rfl

/-- An effect leaves the settings alone. -/
theorem Effect.settings {change : Option (NodeId × Change)} (h : k.Effect change k') :
    k'.settings = k.settings := by
  cases h with
  | still same _ _ => exact same.settings
  | instantiated _ _ state _ => rw [state]
  | datumCreated _ _ _ _ state _ | closureCreated _ _ _ state _ | removed _ _ _ _ state _
  | subscribed _ _ _ _ _ _ state _ _ =>
    rw [state]
    rfl
  | changed _ _ _ _ _ _ settings _ _ _ _ _ => exact settings

/-- An effect neither starts nor ends a drain. -/
theorem Effect.draining {change : Option (NodeId × Change)} (h : k.Effect change k') :
    k'.schedule.draining = k.schedule.draining := by
  cases h with
  | still same _ _ => exact same.draining
  | instantiated _ _ state _ => rw [state]
  | datumCreated _ _ _ _ state _ | closureCreated _ _ _ state _ | removed _ _ _ _ state _
  | subscribed _ _ _ _ _ _ state _ _ =>
    rw [state]
    rfl
  | changed _ _ _ _ _ _ _ _ draining _ _ _ => exact draining

/-- An effect opens no generation. -/
theorem Effect.generation {change : Option (NodeId × Change)} (h : k.Effect change k') :
    k'.generation = k.generation := by
  cases h with
  | still same _ _ => exact same.generation
  | instantiated _ _ state _ => exact congrArg State.generation state
  | datumCreated _ _ _ _ state _ | closureCreated _ _ _ state _ | removed _ _ _ _ state _
  | subscribed _ _ _ _ _ _ state _ _ =>
    unfold State.generation
    rw [state]
    rfl
  | changed _ _ _ _ _ _ _ generation _ _ _ _ => exact generation

/-- What a drain does leaves the settings alone. -/
theorem DrainAction.settings (h : k.DrainAction k') : k'.settings = k.settings := by
  cases h <;> rfl

end Kernel

/-- The settings never change. -/
def Contract.steadiness (κ : Type) : Contract κ :=
  ⟨fun k => k.toState.Consistent, fun k k' => k'.settings = k.settings, fun _ _ => True⟩

/-- The settings never change, and while a drain is running, whoever gets control writes nothing
that only drains write. -/
def Contract.discretion (κ : Type) : Contract κ :=
  ⟨fun k => k.toState.Consistent, fun k k' => k'.settings = k.settings, fun k k' =>
    k.schedule.draining = true → k'.schedule.draining = true ∧ k.Murmurs k'⟩

namespace Contract

open Kernel

/-- All actions leave the settings alone. -/
theorem steadiness_drainStable : (steadiness κ).DrainStable where
  refl _ := rfl
  trans h h' := Eq.trans h' h
  returns_refl _ := trivial
  returns_trans _ _ := trivial
  act _ _ _ action consistent := by
    obtain ⟨_, effect⟩ := action.effect consistent
    exact ⟨effect.consistent consistent, effect.settings, trivial⟩
  drainAct action consistent :=
    ⟨(consistency_drainStable.drainAct action consistent).holds, action.settings, trivial⟩

/-- An activity that keeps the settings keeps a contract that asks for no more, but for what those
who get control leave alone, if nothing is to be left alone when it begins. -/
theorem Safe.of_steadiness {α : Type} {a : Activity κ α} {C : Contract κ} {k : Kernel κ}
    (holds : ∀ k, C.holds k ↔ k.toState.Consistent)
    (leads : ∀ k k', C.leads k k' ↔ k'.settings = k.settings) (free : ∀ k', C.returns k k')
    (steady : a.Safe (steadiness κ) k) : a.Safe C k := by
  have kept : a.Keeps C (fun _ k' => (steadiness κ).Passes k k') k :=
    .of_contract (fun k h => (holds k).mpr h) (fun k k' h => (leads k k').mpr h)
      (fun _ _ _ back => ⟨(holds _).mp back.holds, (leads _ _).mp back.leads, trivial⟩) steady
  exact kept.mono fun _ k' back => ⟨(holds _).mpr back.holds, (leads _ _).mpr back.leads, free k'⟩

/-- What is written while a drain is running adds up. -/
theorem discretion_ordered : (discretion κ).Ordered where
  refl _ := rfl
  trans h h' := Eq.trans h' h
  returns_refl k draining := ⟨draining, .refl k⟩
  returns_trans h h' draining := by
    obtain ⟨running, murmurs⟩ := h draining
    obtain ⟨running', murmurs'⟩ := h' running
    exact ⟨running', murmurs.trans murmurs'⟩

/-- A drain is refused while one is running, and it is free to write what it wants otherwise. -/
theorem discretion_drain {k : Kernel κ} (consistent : k.toState.Consistent) :
    k.drain.Safe (discretion κ) k := by
  cases running : k.schedule.draining with
  | true =>
    have refused : k.drain = .done (.error .reentrant) k := if_pos running
    rw [refused]
    exact .done (discretion_ordered.passes_refl consistent)
  | false =>
    have steady := steadiness_drainStable.drain (k := k) consistent
    refine Safe.of_steadiness (fun _ => .rfl) (fun _ _ => .rfl) (fun _ draining => ?_) steady
    rw [running] at draining
    cases draining

/-- Operations other than drains leave a running drain alone. -/
theorem discretion_stable : (discretion κ).Stable where
  toOrdered := discretion_ordered
  act _ _ _ action consistent := by
    obtain ⟨_, effect⟩ := action.effect consistent
    refine ⟨effect.consistent consistent, effect.settings, fun draining => ?_⟩
    exact ⟨effect.draining.trans draining, action.murmurs consistent⟩

/-- Whoever gets control leaves a running drain alone. -/
theorem discretion_sound : (discretion κ).Sound :=
  discretion_stable.sound
    (fun p k consistent => by
      have state := toState_probe p k
      have kept : (p.perform k).2.toState.Consistent := state ▸ consistent
      have running := congrArg (fun s => s.schedule.draining) state
      exact ⟨kept, congrArg State.settings state, fun draining =>
        ⟨running.trans draining, murmurs_probe p k⟩⟩)
    fun _ consistent => discretion_drain consistent

end Contract

end ReactiveKernel
