import ReactiveKernel.Proofs.Run.Contract
import ReactiveKernel.Proofs.Transaction

/-!
# Callbacks in runs

A path is a number of steps of a run together with the notifications of the callbacks that started
meanwhile. What holds whenever a callback is due is proved of the activities of calls, where only
drains matter, since no other operation notifies callbacks.
-/

namespace ReactiveKernel

variable {κ α β : Type}

namespace Activity

/-- The notification of the callback that is due. A step from there starts it. -/
def due? : Activity κ α → Option Notification
  | .react _ (.notified n) _ _ => some n
  | _ => none

/-- Some steps of a run, and the notifications of the callbacks that started, in this order. -/
inductive Path : Activity κ α → List Notification → Activity κ α → Prop
  /-- No step. -/
  | refl (a : Activity κ α) : Path a [] a
  /-- One more step, which starts the callback that is due. -/
  | tail {a b c : Activity κ α} {ns : List Notification} : Path a ns b → Step b c →
    Path a (ns ++ b.due?.toList) c

/-- A path is made of steps. -/
theorem Path.steps {a b : Activity κ α} {ns : List Notification} (h : Path a ns b) :
    Steps a b := by
  induction h with
  | refl => exact .refl
  | tail _ step ih => exact ih.tail step

theorem Path.trans {a b c : Activity κ α} {ns ms : List Notification} (h : Path a ns b)
    (h' : Path b ms c) : Path a (ns ++ ms) c := by
  induction h' with
  | refl => rwa [List.append_nil]
  | tail _ step ih =>
    rw [← List.append_assoc]
    exact ih.tail step

/-- A callback is due where host code is to react to its notification. -/
theorem due_eq_some {a : Activity κ α} {n : Notification} (h : a.due? = some n) :
    ∃ code k next, a = .react code (.notified n) k next := by
  cases a with
  | react code occasion k next =>
    cases occasion with
    | notified m =>
      cases h
      exact ⟨code, k, next, rfl⟩
    | _ => cases h
  | _ => cases h

/-- The activity after host code that is due has done nothing. -/
def resume : Activity κ α → Activity κ α
  | .react _ _ k next => next (.ok ()) k
  | a => a

/-- A callback that is due may start and do nothing. -/
theorem path_resume {a : Activity κ α} {n : Notification} (h : a.due? = some n) :
    Path a [n] a.resume := by
  obtain ⟨code, k, next, rfl⟩ := due_eq_some h
  have started : Path _ [n] _ := (Path.refl _).tail (.start code (.notified n) k next
    (.pure (.ok ())))
  exact started.tail (.finish (.ok ()) k next)

/-- No callback is ever notified, whatever host code and calls do. -/
def Unnotified : Activity κ α → Prop
  | .done _ _ => True
  | .react _ occasion _ next => (∀ n, occasion ≠ .notified n) ∧ ∀ r k, (next r k).Unnotified
  | .host _ _ next => ∀ r k, (next r k).Unnotified
  | .call _ _ next => ∀ r k, (next r k).Unnotified

/-- No callback is notified by activities in a row if none is by either of them. -/
theorem Unnotified.bind {a : Activity κ α} {f : α → Kernel κ → Activity κ β}
    (h : a.Unnotified) (rest : ∀ x k, (f x k).Unnotified) : (a.bind f).Unnotified := by
  induction a with
  | done x k => exact rest x k
  | react code occasion k next ih => exact ⟨h.1, fun r k' => ih r k' (h.2 r k')⟩
  | host p k next ih => exact fun r k' => ih r k' (h r k')
  | call c k next ih => exact fun r k' => ih r k' (h r k')

/-- Callbacks are notified only as a condition says, whatever host code and calls do that keep a
contract. The condition relates the kernel where the activity was begun, or where control came
back last, to the one at which the callback is due. -/
def Admits (C : Contract κ) (may : Kernel κ → κ → Notification → Kernel κ → Prop) :
    Kernel κ → Activity κ α → Prop
  | _, .done _ _ => True
  | k₀, .react code occasion k next => (∀ n, occasion = .notified n → may k₀ code n k) ∧
    ∀ r k', C.Passes k k' → (next r k').Admits C may k'
  | _, .host _ k next => ∀ r k', C.Passes k k' → (next r k').Admits C may k'
  | _, .call _ k next => ∀ r k', C.Passes k k' → (next r k').Admits C may k'

variable {C : Contract κ} {may : Kernel κ → κ → Notification → Kernel κ → Prop}
  {fits : α → Kernel κ → Prop} {k₀ : Kernel κ} {a b : Activity κ α}

/-- Where no callback is notified, every condition on callbacks is met. -/
theorem Unnotified.admits (h : a.Unnotified) : a.Admits C may k₀ := by
  induction a generalizing k₀ with
  | done x k => trivial
  | react code occasion k next ih =>
    exact ⟨fun n same => absurd same (h.1 n), fun r k' _ => ih r k' (h.2 r k')⟩
  | host p k next ih => exact fun r k' _ => ih r k' (h r k')
  | call c k next ih => exact fun r k' _ => ih r k' (h r k')

/-- A condition that also holds when it is seen from an earlier kernel. -/
def Backward (C : Contract κ) (may : Kernel κ → κ → Notification → Kernel κ → Prop) : Prop :=
  ∀ k₁ k₂ k code n, C.leads k₁ k₂ → may k₂ code n k → may k₁ code n k

/-- A condition on callbacks is also met from earlier on. -/
theorem Admits.earlier (back : Backward C may) {k : Kernel κ} (l : C.leads k k₀)
    (h : a.Admits C may k₀) : a.Admits C may k := by
  cases a with
  | done x k' => trivial
  | react code occasion k' next => exact ⟨fun n same => back _ _ _ _ n l (h.1 n same), h.2⟩
  | host p k' next => exact h
  | call c k' next => exact h

/-- A condition on callbacks is met by activities in a row if it is by either of them. -/
theorem Admits.bind (back : Backward C may) {f : α → Kernel κ → Activity κ β}
    (h : a.Admits C may k₀)
    (keeps : a.Keeps C (fun x k => (f x k).Admits C may k) k₀) :
    (a.bind f).Admits C may k₀ := by
  induction a generalizing k₀ with
  | done x k => exact keeps.2.earlier back keeps.1
  | react code occasion k next ih =>
    exact ⟨h.1, fun r k' passes => ih r k' (h.2 r k' passes) (keeps.2.2 r k' passes)⟩
  | host p k next ih => exact fun r k' passes => ih r k' (h r k' passes) (keeps.2.2 r k' passes)
  | call c k next ih => exact fun r k' passes => ih r k' (h r k' passes) (keeps.2.2 r k' passes)

/-- If calls notify callbacks only as a condition says, then so do runs. -/
theorem Admits.step (sound : C.Sound) (back : Backward C may)
    (calls : ∀ (order : EdgeOrder κ) (c : Call) k, C.holds k →
      (c.activity order k).Admits C may k)
    (keeps : a.Keeps C fits k₀) (h : a.Admits C may k₀) (step : Step a b) :
    b.Admits C may a.kernel := by
  have ordered := sound.toOrdered
  cases step with
  | start code occasion k next p => exact h.2
  | finish r k next => exact h r k (ordered.passes_refl keeps.2.1)
  | inspect f k next => exact h
  | probe p f k next =>
    have done := sound.probe p k keeps.2.1
    exact fun r k' passes => h r k' (ordered.passes_trans done passes)
  | command order c f k next =>
    have done := sound.command order c k keeps.2.1
    exact fun r k' passes => h r k' (ordered.passes_trans done passes)
  | request order c f k next =>
    have call := sound.call order c k keeps.2.1
    refine (calls order c k keeps.2.1).bind back (call.mono fun reply k' done => ?_)
    exact fun r k'' passes => h r k'' (ordered.passes_trans done passes)
  | call order c k next =>
    have call := sound.call order c k keeps.2.1
    exact (calls order c k keeps.2.1).bind back (call.mono fun reply k' done => h reply k' done)

end Activity

/-! No operation but a drain notifies callbacks. -/

namespace Kernel

variable (order : EdgeOrder κ) (k : Kernel κ)

theorem unnotified_makeChildren (id : ClosureId) (indices : List Nat) :
    (k.makeChildren id indices).Unnotified := by
  induction indices generalizing k with
  | nil => trivial
  | cons index rest ih =>
    intro r k'
    cases r with
    | ok child => exact ih k'
    | error fault => trivial

theorem unnotified_reactTo (code : Option κ) {occasion : Occasion}
    (other : ∀ n, occasion ≠ .notified n) : (Activity.reactTo code occasion k).Unnotified := by
  cases code with
  | none => trivial
  | some code => exact ⟨other, fun _ _ => trivial⟩

theorem unnotified_wire (id : ClosureId) (t : Template κ) : (k.wire id t).Unnotified := by
  refine (k.unnotified_reactTo t.internal (by simp)).bind ?_
  intro r k'
  cases r with
  | ok u => exact k'.unnotified_makeChildren id t.topChildren
  | error fault => trivial

theorem unnotified_instantiate (template : String) (parent : Option ClosureId)
    (params : List (String × Value)) :
    (k.instantiate order template parent params).Unnotified := by
  rw [instantiate_eq]
  split
  · trivial
  · split
    · trivial
    · exact (unnotified_wire _ _ _).bind fun _ _ => trivial

theorem unnotified_callSite (parent : ClosureId) (index : Nat) :
    (k.callSite order parent index).Unnotified := by
  unfold callSite
  split
  · trivial
  · next site _ =>
    intro r k'
    cases r with
    | error fault => trivial
    | ok child =>
      refine (k'.unnotified_reactTo site.binding (by simp)).bind ?_
      intro outcome k''
      cases outcome <;> trivial

theorem unnotified_run (template : Option String) : (k.run order template).Unnotified := by
  unfold run
  split
  · trivial
  · intro r k'
    cases r with
    | error fault => trivial
    | ok root =>
      intro outcome k''
      cases outcome <;> trivial

theorem unnotified_applyEvent (event : Event κ) : (k.applyEvent order event).Unnotified := by
  cases event with
  | invoke code => exact ⟨by simp, fun _ _ => trivial⟩
  | _ =>
    simp only [applyEvent]
    split <;> trivial

theorem unnotified_applyEvents (events : List (Event κ)) (applied rejected : Nat) :
    (k.applyEvents order events applied rejected).Unnotified := by
  induction events generalizing applied rejected k with
  | nil => trivial
  | cons event rest ih =>
    refine (unnotified_applyEvent order _ event).bind ?_
    intro outcome k'
    cases outcome with
    | ok u => exact ih k' (applied + 1) rejected
    | error fault => exact ih _ applied (rejected + 1)

theorem unnotified_drainEvents : (k.drainEvents order).Unnotified := by
  unfold drainEvents
  split
  · trivial
  · refine (unnotified_applyEvents order _ _ 0 0).bind ?_
    intro counts k' r k''
    cases r <;> trivial

end Kernel

/-- Callbacks are notified as a condition says if drains notify them so. -/
theorem Call.admits {C : Contract κ} {may : Kernel κ → κ → Notification → Kernel κ → Prop}
    {k : Kernel κ} (order : EdgeOrder κ) (drain : k.drain.Admits C may k) (c : Call) :
    (c.activity order k).Admits C may k := by
  cases c with
  | instantiate template parent params =>
    exact (k.unnotified_instantiate order template parent params).admits
  | callSite parent index => exact (k.unnotified_callSite order parent index).admits
  | run template => exact (k.unnotified_run order template).admits
  | drain => exact drain
  | drainEvents => exact (k.unnotified_drainEvents order).admits

end ReactiveKernel
