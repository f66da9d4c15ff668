import ReactiveKernel.Execution.Host

/-!
# Depth does not matter

An engine extends another when it has every result that the other has. Following an activity is
monotone in the engine, so a deeper engine of a host extends a shallower one: a program that has
a result at some depth has the same result at every greater depth.
-/

namespace ReactiveKernel

variable {κ α : Type}

/-- Every result of the first engine is a result of the second. -/
structure Engine.Extends (small large : Engine κ) : Prop where
  /-- Both walk sets in the same order. -/
  order : small.order = large.order
  /-- Results of host code are kept. -/
  react : ∀ code occasion k r, small.react code occasion k = some r →
    large.react code occasion k = some r
  /-- Results of calls are kept. -/
  call : ∀ c k r, small.call c k = some r → large.call c k = some r

/-- A program keeps its result when calls keep theirs. -/
theorem Program.exec_mono (order : EdgeOrder κ)
    {small large : (c : Call) → Kernel κ → Option (Except Fault c.Reply × Kernel κ)}
    (h : ∀ c k r, small c k = some r → large c k = some r) (p : Program κ α) {k : Kernel κ}
    {r : α × Kernel κ} (run : p.exec order small k = some r) :
    p.exec order large k = some r := by
  induction p generalizing k with
  | pure a => exact run
  | inspect next ih => exact ih _ run
  | probe p next ih => exact ih _ run
  | command c next ih => exact ih _ run
  | call c next ih =>
    simp only [exec] at run ⊢
    cases hc : small c k with
    | none => simp [hc] at run
    | some result =>
      simp only [hc] at run
      simp only [h _ _ _ hc]
      exact ih _ run

namespace Engine

variable {small large : Engine κ}

theorem Extends.refl (e : Engine κ) : e.Extends e :=
  ⟨rfl, fun _ _ _ _ h => h, fun _ _ _ h => h⟩

theorem Extends.trans {a b c : Engine κ} (h : a.Extends b) (h' : b.Extends c) : a.Extends c :=
  ⟨h.order.trans h'.order, fun _ _ _ _ r => h'.react _ _ _ _ (h.react _ _ _ _ r),
    fun _ _ _ r => h'.call _ _ _ (h.call _ _ _ r)⟩

end Engine

/-- An activity keeps its result when host code and calls keep theirs. -/
theorem Activity.run_mono {small large : Engine κ} (h : small.Extends large)
    (a : Activity κ α) {r : α × Kernel κ} (run : a.run small = some r) :
    a.run large = some r := by
  induction a with
  | done a k => exact run
  | react code occasion k next ih =>
    simp only [Activity.run] at run ⊢
    cases hc : small.react code occasion k with
    | none => simp [hc] at run
    | some result =>
      simp only [hc] at run
      simp only [h.react _ _ _ _ hc]
      exact ih _ _ run
  | host p k next ih =>
    simp only [Activity.run] at run ⊢
    cases hc : p.exec small.order small.call k with
    | none => simp [hc] at run
    | some result =>
      simp only [hc] at run
      rw [← h.order, Program.exec_mono _ h.call _ hc]
      exact ih _ _ run
  | call c k next ih =>
    simp only [Activity.run] at run ⊢
    cases hc : small.call c k with
    | none => simp [hc] at run
    | some result =>
      simp only [hc] at run
      simp only [h.call _ _ _ hc]
      exact ih _ _ run

namespace Host

/-- One more level of nesting only adds results. -/
theorem engine_extends_succ (h : Host κ) (depth : Nat) :
    (h.engine depth).Extends (h.engine (depth + 1)) := by
  induction depth with
  | zero =>
    refine ⟨rfl, ?_, ?_⟩
    · intro code occasion k r run
      simp [engine] at run
    · intro c k r run
      simp [engine] at run
  | succ depth ih =>
    refine ⟨rfl, ?_, ?_⟩
    · intro code occasion k r run
      exact Program.exec_mono _ ih.call _ run
    · intro c k r run
      exact Activity.run_mono ih _ run

/-- A deeper engine extends a shallower one. -/
theorem engine_extends (h : Host κ) {depth deeper : Nat} (le : depth ≤ deeper) :
    (h.engine depth).Extends (h.engine deeper) := by
  induction le with
  | refl => exact .refl _
  | step _ ih => exact ih.trans (h.engine_extends_succ _)

end Host

end ReactiveKernel
