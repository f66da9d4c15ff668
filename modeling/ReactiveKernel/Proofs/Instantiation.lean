import ReactiveKernel.Proofs.Instantiation.Aftermath
import ReactiveKernel.Proofs.Instantiation.Confinement

/-!
# A failed instantiation leaves nothing behind

An instantiation either keeps its closure or ends with the fault of the step that failed, and then
nothing of what it built is left. If host code kept to the subtree of the new closure, the failure
restores all nodes and subscriptions.
-/

namespace ReactiveKernel

variable {κ : Type}

namespace State

/-- The tables are those of an earlier state. Of the subscriptions that became pending since, none
is registered. -/
structure Restores (s₀ s : State κ) : Prop where
  /-- The same datums, closures and subscriptions. -/
  tables : s₀.SameTables s
  /-- What was pending still is. -/
  kept : ∀ id ∈ s₀.schedule.pending, id ∈ s.schedule.pending
  /-- What is pending was so before, or it is a new subscription that is gone. -/
  gone : ∀ id ∈ s.schedule.pending, id ∈ s₀.schedule.pending ∨
    s₀.nextSubscription.raw ≤ id.raw ∧ id ∉ s.edges.subscriptions

variable {s₀ s : State κ}

theorem Restores.refl (s : State κ) : s.Restores s :=
  ⟨.refl s, fun _ pending => pending, fun _ pending => .inl pending⟩

/-- When the closure that encloses all that is new is gone, the earlier state is restored. -/
theorem Confines.restores (h : s₀.Confines s) (issued : s₀.Issued)
    (dead : s₀.nextClosure ∉ s.closures) : s₀.Restores s := by
  have tables := h.encloses.of_dead h.consistent dead
  refine ⟨tables, h.kept, fun id pending => (h.fresh id pending).imp_right fun new => ⟨new, ?_⟩⟩
  intro registered
  rw [tables.edges] at registered
  obtain ⟨e, he⟩ := Kernel.mem_subscriptions.mp registered
  exact Nat.not_lt.mpr new (issued.registered id e he)

end State

namespace Kernel

open State Activity

variable {k k' : Kernel κ} {order : EdgeOrder κ} {c : Call} {fault : Fault} {n : Nat}

/-- A call that builds and fails has been refused, or the closure that it made is gone. -/
theorem outcome_failed (accounted : k.Accounted) (builds : c.builds = true)
    (h : EndsIn n (c.activity order k) (.error fault) k') :
    ∃ template parent, k.Outcome template parent (.error fault) k' := by
  cases c with
  | instantiate template parent params => exact ⟨template, parent, outcome_instantiate accounted h⟩
  | callSite p index =>
    obtain ⟨template, outcome⟩ := outcome_callSite accounted h
    exact ⟨template, some p, outcome⟩
  | run template => cases builds
  | drain => cases builds
  | drainEvents => cases builds

/-- A call that builds makes the closure that is next. -/
theorem asks_of_builds (k : Kernel κ) (builds : c.builds = true) :
    (Discipline.confinement k.toState).asks c k := by
  cases c with
  | instantiate template parent params => exact .inl rfl
  | callSite p index => exact .inl rfl
  | run template => cases builds
  | drain => cases builds
  | drainEvents => cases builds

/-- Host code that keeps to the subtree of the new closure leaves all that is new there. -/
theorem confines_of_stepsWithin (consistent : k.toState.Consistent) (builds : c.builds = true)
    {r : Except Fault c.Reply}
    (steps : StepsWithin (.within k.toState.nextClosure) (c.activity order k) (.done r k')) :
    k.toState.Confines k'.toState := by
  have kept := Discipline.confinement_kept k.toState
  have obeys := kept.call order c k (.refl consistent) (asks_of_builds k builds)
  exact (kept.steps obeys steps).1

/-- An instantiation that succeeds gives a live closure with the template and the parent that were
asked for. A call that builds a closure and fails does so with the fault of the step that failed,
and either nothing has happened, or nothing is left of the closure that it made and of what was
built below. If host code has kept to the subtree of that closure, the nodes and subscriptions are
those from before the call, and only subscriptions that are gone have become pending. -/
theorem failed_instantiation_leaves_nothing (h : k.Reachable) :
    (∀ order template parent params c k',
      Steps (k.instantiate order template parent params) (.done (.ok c) k') →
      c = k.toState.nextClosure ∧
        ∃ x, k'.closures[c]? = some x ∧ x.template = template ∧ x.parent = parent) ∧
    ∀ order (c : Call) fault k', c.builds = true →
      Steps (c.activity order k) (.done (.error fault) k') →
      Raises order c k fault k' ∧
      (k' = k ∨ ∃ template parent rest,
        let made := k.toState.nextClosure
        let events := .closureCreated made template parent :: rest
        k'.told = k.told ++ events ∧ k'.toState.FreeOf events made) ∧
      (StepsWithin (.within k.toState.nextClosure) (c.activity order k) (.done (.error fault) k') →
        k.toState.Restores k'.toState) := by
  have accounted := h.accounted
  have consistent := h.consistent
  refine ⟨fun order template parent params c k' steps => ?_,
    fun order c fault k' builds steps => ?_⟩
  · obtain ⟨n, ends⟩ := steps.endsIn
    cases outcome_instantiate accounted ends with
    | kept live told => exact ⟨rfl, told.record live⟩
  · obtain ⟨n, ends⟩ := steps.endsIn
    obtain ⟨template, parent, outcome⟩ := outcome_failed accounted builds ends
    refine ⟨raises_of_endsIn builds ends, ?_⟩
    cases outcome with
    | refused => exact ⟨.inl rfl, fun _ => .refl _⟩
    | @lost _ rest _ dead told =>
      refine ⟨.inr ⟨template, parent, rest, told.told, told.freeOf dead⟩, fun within => ?_⟩
      exact (confines_of_stepsWithin consistent builds within).restores consistent.issued dead

/-- A kernel with a datum, and with a template whose closures are set up by host code. -/
def formed : Kernel Unit :=
  let templates := TemplateLibrary.empty.insert "Form" (Template.empty.withInternal ())
  (Kernel.create .standard templates).performAll .ascending [.createDatum "Cell" [] none]

/-- Host code that makes a datum for the new closure, lets the closure hear from the old datum, and
then fails. -/
def formedCode : Program Unit (Except Fault Unit) :=
  .command (.createDatum "Field" [] (some ⟨0⟩)) fun _ =>
  .command (.subscribe (.datum ⟨0⟩) (.closure ⟨0⟩) .structural ()) fun _ =>
  .pure (.error (.unknownDatum ⟨7⟩))

/-- The kernel when this host code starts. -/
def formedOpen : Kernel Unit :=
  (formed.performAll .ascending [.createClosure "Form" none]).setParams ⟨0⟩ []

/-- The kernel when this host code has failed. -/
def formedWired : Kernel Unit :=
  formedOpen.performAll .ascending [.createDatum "Field" [] (some ⟨0⟩),
    .subscribe (.datum ⟨0⟩) (.closure ⟨0⟩) .structural ()]

/-- The kernel at the end of the instantiation. -/
def formedLeft : Kernel Unit :=
  (formedWired.log (.instantiateFailed ⟨0⟩ "Form" (.unknownDatum ⟨7⟩))).raze .ascending ⟨0⟩

/-- The host code of the example keeps to the new closure, and the instantiation fails with its
fault. -/
theorem stepsWithin_formed :
    StepsWithin (.within ⟨0⟩) (formed.instantiate .ascending "Form" none [])
      (.done (.error (.unknownDatum ⟨7⟩)) formedLeft) := by
  obtain ⟨next, opens, closes⟩ : ∃ next,
      formed.instantiate .ascending "Form" none [] = .react () (.instantiated ⟨0⟩) formedOpen next ∧
      next (.error (.unknownDatum ⟨7⟩)) formedWired =
        .done (.error (.unknownDatum ⟨7⟩)) formedLeft := ⟨_, rfl, rfl⟩
  have inside (k : Kernel Unit) : k.toState.Inside ⟨0⟩ (.closure ⟨0⟩) := fun live =>
    have ⟨_, there⟩ := contains_closure.mp live
    .self there
  rw [opens, ← closes]
  refine .head ⟨trivial, .start () (.instantiated ⟨0⟩) formedOpen next formedCode⟩ ?_
  refine .head ⟨⟨⟨0⟩, rfl, inside formedOpen⟩, .command .ascending _ _ _ _⟩ ?_
  refine .head ⟨.inr (inside _), .command .ascending _ _ _ _⟩ ?_
  exact .single ⟨trivial, .finish _ _ _⟩

/-- The datum and the subscription are gone, and the old datum is as it was. -/
theorem failed_instantiation_leaves_nothing_formed :
    let rest : List TraceEvent := [.datumCreated ⟨1⟩ "Field" (some ⟨0⟩),
      .subscribed ⟨0⟩ (.datum ⟨0⟩) (.closure ⟨0⟩) .structural, .unsubscribed ⟨0⟩,
      .datumDestroyed ⟨1⟩, .closureDestroyed ⟨0⟩]
    formed.Reachable ∧ StepsWithin (.within ⟨0⟩)
      (formed.instantiate .ascending "Form" none [])
      (.done (.error (.unknownDatum ⟨7⟩)) formedLeft) ∧
    formedLeft.told = formed.told ++ .closureCreated ⟨0⟩ "Form" none :: rest ∧
    formedLeft.toState.FreeOf (.closureCreated ⟨0⟩ "Form" none :: rest) ⟨0⟩ ∧
    formed.toState.Restores formedLeft.toState := by
  intro rest
  have reachable : formed.Reachable := reachable_performAll ..
  have within := stepsWithin_formed
  have told : formedLeft.told = formed.told ++ .closureCreated ⟨0⟩ "Form" none :: rest := rfl
  obtain ⟨_, left, restores⟩ := (failed_instantiation_leaves_nothing reachable).2 .ascending
    (.instantiate "Form" none []) _ _ rfl within.steps
  refine ⟨reachable, within, told, ?_, restores within⟩
  rcases left with same | ⟨template, parent, more, told', free⟩
  · cases congrArg (fun k => k.counters.closures) same
  · have events := List.append_cancel_left (told.symm.trans told')
    rw [events]
    exact free

end Kernel

end ReactiveKernel
