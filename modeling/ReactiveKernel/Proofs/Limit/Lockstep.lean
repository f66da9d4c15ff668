import ReactiveKernel.Proofs.Effect.Murmurs
import ReactiveKernel.Proofs.Limit.Command
import ReactiveKernel.Proofs.Run.Accord
import ReactiveKernel.Proofs.Run.Choice

/-!
# Waves under different limits

Within a wave nothing depends on the limit of waves: commands do not look at it, and a further drain
is refused. Two deliveries of a wave from kernels that differ in the limit only are therefore in
lockstep, and with the same choices they start the same callbacks and go through the same kernels,
but for the limit.
-/

namespace ReactiveKernel

variable {κ α : Type}

/-- Host code that goes on in the same way whatever the limit of waves is. -/
def Program.IgnoresLimit : Program κ α → Prop
  | .pure _ => True
  | .inspect next =>
    (∀ s limit, next (s.withLimit limit) = next s) ∧ ∀ s, (next s).IgnoresLimit
  | .probe _ next => ∀ r, (next r).IgnoresLimit
  | .command _ next => ∀ r, (next r).IgnoresLimit
  | .call _ next => ∀ r, (next r).IgnoresLimit

/-- A choice of host code or of an order that ignores the limit of waves. -/
def Choice.IgnoresLimit : Choice κ → Prop
  | .start p => p.IgnoresLimit
  | .walk order => order.IgnoresLimit
  | .proceed => True

namespace Kernel

open Activity

/-- Within the wave of a generation, the second kernel is the first one with another limit. -/
structure LimitApart (limit generation : Nat) (k k' : Kernel κ) : Prop where
  /-- They differ in the limit only. -/
  same : k' = k.withLimit limit
  /-- A drain is running. -/
  draining : k.schedule.draining = true
  /-- No further wave was taken. -/
  generation : k.generation = generation
  /-- The state is consistent. -/
  consistent : k.toState.Consistent

namespace LimitApart

variable {limit g : Nat} {k k' m m' : Kernel κ} {order : EdgeOrder κ}

/-- What operations other than drains do keeps kernels apart in the limit only. -/
theorem act (h : LimitApart limit g k k') (action : k.Action order m)
    (same : m' = m.withLimit limit) : LimitApart limit g m m' := by
  obtain ⟨_, effect⟩ := action.effect h.consistent
  exact ⟨same, effect.draining.trans h.draining, effect.generation.trans h.generation,
    effect.consistent h.consistent⟩

theorem note (h : LimitApart limit g k k') (o : Occurrence κ) :
    LimitApart limit g (k.note o) (k'.note o) := by
  obtain ⟨rfl, draining, generation, consistent⟩ := h
  exact ⟨rfl, draining, generation, consistent⟩

theorem emit (h : LimitApart limit g k k') (e : TraceEvent) :
    LimitApart limit g (k.emit e) (k'.emit e) := by
  obtain ⟨rfl, draining, generation, consistent⟩ := h
  exact ⟨rfl, draining, generation, consistent⟩

theorem discardPending (h : LimitApart limit g k k') :
    LimitApart limit g k.discardPending k'.discardPending := by
  obtain ⟨rfl, draining, generation, consistent⟩ := h
  exact ⟨rfl, draining, generation, (Contract.consistency_drainStable.drainAct
    (.reschedule k.schedule.discard (by simp [Schedule.discard])) consistent).holds⟩

/-- A command has the same answer, and leaves the kernels apart by the limit alone. -/
theorem perform (h : LimitApart limit g k k') (blind : order.IgnoresLimit) (c : Command κ) :
    (c.perform order k').1 = (c.perform order k).1 ∧
      LimitApart limit g (c.perform order k).2 (c.perform order k').2 := by
  have performed : c.perform order k' =
      ((c.perform order k).1, (c.perform order k).2.withLimit limit) := by
    rw [h.same]
    exact c.perform_withLimit blind
  rw [performed]
  exact ⟨rfl, h.act (.command c) rfl⟩

/-- A probe has the same answer, and leaves the kernels apart by the limit alone. -/
theorem probe (h : LimitApart limit g k k') (p : Probe) :
    (p.perform k').1 = (p.perform k).1 ∧
      LimitApart limit g (p.perform k).2 (p.perform k').2 := by
  obtain ⟨rfl, draining, generation, consistent⟩ := h
  have state := toState_probe p k
  rw [p.perform_withLimit]
  exact ⟨rfl, rfl, by rw [state]; exact draining, by rw [state]; exact generation,
    by rw [state]; exact consistent⟩

theorem setParams (h : LimitApart limit g k k') (id : ClosureId)
    (params : List (String × Value)) :
    LimitApart limit g (k.setParams id params) (k'.setParams id params) := by
  have action : k.Action .ascending (k.setParams id params) := .params id params
  refine h.act action ?_
  rw [h.same]
  exact setParams_withLimit id params

/-- The delivery of a wave is the same whatever the limit is. -/
theorem deliverable : Deliverable (LimitApart (κ := κ) limit g) where
  edges h := by rw [h.same]; rfl
  schedule h := by rw [h.same]; rfl
  onFailure h := by rw [h.same]; rfl
  note o h := h.note o
  emit e h := h.emit e
  discardPending h := h.discardPending

/-- Operations other than drains do the same whatever the limit is. -/
theorem accordant (blind : order.IgnoresLimit) :
    Accordant (LimitApart (κ := κ) limit g) (fun _ => Eq) order order where
  closures h := by rw [h.same]; rfl
  templates h := by rw [h.same]; rfl
  entryTemplate h := by rw [h.same]; rfl
  note o h := h.note o
  emit e h := h.emit e
  command c h := h.perform blind c
  setParams id params h := h.setParams id params
  instantiated := Eq.symm
  called := Eq.symm
  drained same := congrArg (Except.map DrainReport.waves) same.symm

end LimitApart

/-- Two activities at the same point within a wave under different limits, now and after every
answer. -/
abbrev Matched (limit g : Nat) : Activity κ α → Activity κ α → Prop :=
  Lockstep (LimitApart limit g) Program.IgnoresLimit

variable {limit g : Nat} {k k' : Kernel κ} {order : EdgeOrder κ}

/-- What a call does within a wave is the same whatever the limit is: a drain is refused. -/
theorem matched_activity (h : LimitApart limit g k k') (blind : order.IgnoresLimit) (c : Call) :
    Matched limit g (c.activity order k) (c.activity order k') := by
  have draining : k'.schedule.draining = true := by rw [h.same]; exact h.draining
  have accordant : Accordant (LimitApart limit g) (fun _ => Eq) order order :=
    LimitApart.accordant blind
  cases c with
  | instantiate template parent params =>
    exact (accordant.instantiate template parent params h).lockstep
  | callSite parent index => exact (accordant.callSite parent index h).lockstep
  | run template => exact (accordant.run template h).lockstep
  | drain =>
    simp only [Call.activity, drain, h.draining, draining, if_true]
    exact .done _ h
  | drainEvents =>
    simp only [Call.activity, drainEvents, h.draining, draining, if_true]
    exact .done _ h

end Kernel

namespace Activity

open Kernel

variable {limit g : Nat} {a a' b : Activity κ α} {c : Choice κ} {cs : List (Choice κ)}

/-- A step within a wave is also one under another limit. -/
theorem Takes.matched (h : Takes c a b) (matched : Matched limit g a a') (blind : c.IgnoresLimit) :
    ∃ b', Takes c a' b' ∧ Matched limit g b b' := by
  cases matched with
  | done x apart => cases h
  | @react code occasion k k' next next' apart rest =>
    cases h with
    | start _ _ _ _ p => exact ⟨_, .start code occasion k' next' p, .host p blind apart rest⟩
  | @call call k k' next next' apart rest =>
    cases h with
    | call order =>
      exact ⟨_, .call order call k' next', (matched_activity apart blind call).bind rest⟩
  | @host p k k' next next' admitted apart rest =>
    cases h with
    | finish r => exact ⟨_, .finish r k' next', rest r k k' apart⟩
    | inspect f =>
      have seen : f k'.toState = f k.toState := by
        rw [apart.same]
        exact admitted.1 k.toState limit
      refine ⟨_, .inspect f k' next', ?_⟩
      rw [seen]
      exact .host _ (admitted.2 _) apart rest
    | probe q f =>
      obtain ⟨seen, after⟩ := apart.probe q
      refine ⟨_, .probe q f k' next', ?_⟩
      rw [seen]
      exact .host _ (admitted _) after rest
    | command order d f =>
      obtain ⟨answer, after⟩ := apart.perform blind d
      refine ⟨_, .command order d f k' next', ?_⟩
      rw [answer]
      exact .host _ (admitted _) after rest
    | request order d f =>
      refine ⟨_, .request order d f k' next', ?_⟩
      exact (matched_activity apart blind d).bind fun r m m' back =>
        .host _ (admitted r) back rest

/-- A run within a wave is also one under another limit. -/
theorem Follows.matched (h : Follows cs a b) (matched : Matched limit g a a')
    (blind : ∀ c ∈ cs, c.IgnoresLimit) : ∃ b', Follows cs a' b' ∧ Matched limit g b b' := by
  induction h generalizing a' with
  | refl a => exact ⟨a', .refl a', matched⟩
  | step first _ ih =>
    obtain ⟨b', first', still⟩ := first.matched matched (blind _ List.mem_cons_self)
    obtain ⟨d', rest', end_⟩ := ih still fun c hc => blind c (List.mem_cons_of_mem _ hc)
    exact ⟨d', .step first' rest', end_⟩

end Activity

end ReactiveKernel
