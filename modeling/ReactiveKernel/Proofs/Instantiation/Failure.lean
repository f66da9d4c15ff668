import ReactiveKernel.Proofs.Run.Unwinding
import ReactiveKernel.Proofs.Transaction

/-!
# Where an instantiation fails

A call that builds a closure comes to its end in one of a few ways. If it fails, its fault is that
of the first step that failed: a template, a parent or a call site that is not there, host code that
failed, or a closure that was gone when all of it had been wired. The step is found by following the
calls for children down to where it happened.
-/

namespace ReactiveKernel

variable {κ : Type}

/-- Whether a call builds a closure. -/
def Call.builds : Call → Bool
  | .instantiate .. | .callSite .. => true
  | .run _ | .drain | .drainEvents => false

namespace Kernel

open Activity

/-- How an instantiation comes to its end in so many steps. -/
inductive Instantiates (order : EdgeOrder κ) (k : Kernel κ) (template : String)
    (parent : Option ClosureId) (params : List (String × Value)) (n : Nat) :
    Except Fault ClosureId × Kernel κ → Prop
  /-- There is no such template. -/
  | unknown {fault : Fault} (missing : k.templates.require template = .error fault) :
    Instantiates order k template parent params n (.error fault, k)
  /-- The parent is not live. -/
  | refused {t : Template κ} {fault : Fault} (known : k.templates.require template = .ok t)
    (dead : k.createClosure template parent = .error fault) :
    Instantiates order k template parent params n (.error fault, k)
  /-- The closure is made and wired, and whether it is kept depends on what came of that. -/
  | wired {t : Template κ} {id : ClosureId} {k₁ m : Kernel κ} {outcome : Except Fault Unit}
    {i : Nat}
    (known : k.templates.require template = .ok t)
    (made : k.createClosure template parent = .ok (id, k₁))
    (wires : EndsIn i ((k₁.setParams id params).wire id t) outcome m) (within : i ≤ n) :
    Instantiates order k template parent params n
      (m.concludeInstantiation order id template outcome)

/-- How the making of a child comes to its end in so many steps. -/
inductive Attaches (order : EdgeOrder κ) (k : Kernel κ) (parent : ClosureId) (index n : Nat) :
    Except Fault ClosureId × Kernel κ → Prop
  /-- There is no such call site. -/
  | unknown {fault : Fault} (missing : k.findCallSite parent index = .error fault) :
    Attaches order k parent index n (.error fault, k)
  /-- The child cannot be built. -/
  | unbuilt {site : CallSite κ} {inner : EdgeOrder κ} {fault : Fault} {m : Kernel κ} {i : Nat}
    (found : k.findCallSite parent index = .ok site)
    (builds : EndsIn i (k.instantiate inner site.template (some parent) []) (.error fault) m)
    (within : i < n) : Attaches order k parent index n (.error fault, m)
  /-- The child is built and bound. -/
  | bound {site : CallSite κ} {inner : EdgeOrder κ} {child : ClosureId} {m m' : Kernel κ}
    (found : k.findCallSite parent index = .ok site)
    (builds : Steps (k.instantiate inner site.template (some parent) []) (.done (.ok child) m))
    (binds : Steps (reactTo site.binding (.attached parent child) m) (.done (.ok ()) m')) :
    Attaches order k parent index n (.ok child, m')
  /-- The child is built, but binding it fails. -/
  | unbound {site : CallSite κ} {inner : EdgeOrder κ} {child : ClosureId} {m m' : Kernel κ}
    {fault : Fault} (found : k.findCallSite parent index = .ok site)
    (builds : Steps (k.instantiate inner site.template (some parent) []) (.done (.ok child) m))
    (binds : Steps (reactTo site.binding (.attached parent child) m) (.done (.error fault) m')) :
    Attaches order k parent index n (.error fault, m'.raze order child)

variable {order : EdgeOrder κ} {k k' : Kernel κ} {n : Nat}

/-- An instantiation that succeeds returns the closure that it made. -/
theorem eq_of_conclude {c b : ClosureId} {template : String} {outcome : Except Fault Unit}
    (h : (k.concludeInstantiation order c template outcome).1 = .ok b) : c = b := by
  cases outcome with
  | error fault => cases h
  | ok u =>
    simp only [concludeInstantiation] at h
    split at h
    · exact Except.ok.inj h
    · cases h

/-- The end of an instantiation is reached in one of the ways in which it can be. -/
theorem instantiates {template : String} {parent : Option ClosureId}
    {params : List (String × Value)} {r : Except Fault ClosureId}
    (h : EndsIn n (k.instantiate order template parent params) r k') :
    Instantiates order k template parent params n (r, k') := by
  rw [instantiate_eq] at h
  cases known : k.templates.require template with
  | error fault =>
    rw [known] at h
    obtain ⟨rfl, rfl⟩ := h.of_done
    exact .unknown known
  | ok t =>
    rw [known] at h
    cases made : k.createClosure template parent with
    | error fault =>
      rw [made] at h
      obtain ⟨rfl, rfl⟩ := h.of_done
      exact .refused known made
    | ok created =>
      obtain ⟨id, k₁⟩ := created
      rw [made] at h
      obtain ⟨i, j, outcome, m, wires, ends, rfl⟩ := h.of_bind
      have done : Instantiates order k template parent params (i + j) _ :=
        .wired known made wires (Nat.le_add_right i j)
      obtain ⟨rfl, rfl⟩ := ends.of_done
      exact done

/-- The end of the making of a child is reached in one of the ways in which it can be. -/
theorem attaches {parent : ClosureId} {index : Nat} {r : Except Fault ClosureId}
    (h : EndsIn n (k.callSite order parent index) r k') :
    Attaches order k parent index n (r, k') := by
  unfold callSite at h
  cases found : k.findCallSite parent index with
  | error fault =>
    rw [found] at h
    obtain ⟨rfl, rfl⟩ := h.of_done
    exact .unknown found
  | ok site =>
    rw [found] at h
    obtain ⟨inner, i, j, built, m, builds, ends, within⟩ := h.of_call
    cases built with
    | error fault =>
      obtain ⟨rfl, rfl⟩ := ends.of_done
      exact .unbuilt found builds (Nat.lt_of_le_of_lt (Nat.le_add_right i j) within)
    | ok child =>
      obtain ⟨_, _, outcome, m', binds, ends, _⟩ := ends.of_bind
      cases outcome with
      | ok u =>
        obtain ⟨rfl, rfl⟩ := ends.of_done
        exact .bound found builds.steps binds.steps
      | error fault =>
        obtain ⟨rfl, rfl⟩ := ends.of_done
        exact .unbound found builds.steps binds.steps

/-- A call to build a closure fails with the fault of a step that failed, and ends at the kernel
that undoing what was built makes of the one at which that step ended. -/
inductive Raises : EdgeOrder κ → Call → Kernel κ → Fault → Kernel κ → Prop
  /-- There is no such template. -/
  | unknown {order : EdgeOrder κ} {k : Kernel κ} {template : String} {parent : Option ClosureId}
    {params : List (String × Value)} {fault : Fault}
    (missing : k.templates.require template = .error fault) :
    Raises order (.instantiate template parent params) k fault k
  /-- The parent is not live. -/
  | refused {order : EdgeOrder κ} {k : Kernel κ} {template : String} {parent : Option ClosureId}
    {params : List (String × Value)} {t : Template κ} {fault : Fault}
    (known : k.templates.require template = .ok t)
    (dead : k.createClosure template parent = .error fault) :
    Raises order (.instantiate template parent params) k fault k
  /-- The host code of the closure itself failed. -/
  | internal {order : EdgeOrder κ} {k k₁ m : Kernel κ} {template : String}
    {parent : Option ClosureId} {params : List (String × Value)} {t : Template κ} {id : ClosureId}
    {code : κ} {fault : Fault} (known : k.templates.require template = .ok t)
    (made : k.createClosure template parent = .ok (id, k₁)) (host : t.internal = some code)
    (failed : Steps (.react code (.instantiated id) (k₁.setParams id params) .done)
      (.done (.error fault) m)) :
    Raises order (.instantiate template parent params) k fault
      ((m.log (.instantiateFailed id template fault)).raze order id)
  /-- A child could not be made, after the host code and the children before it did not fail. -/
  | child {order inner : EdgeOrder κ} {k k₁ m m' : Kernel κ} {template : String}
    {parent : Option ClosureId} {params : List (String × Value)} {t : Template κ} {id : ClosureId}
    {before after : List Nat} {index : Nat} {fault : Fault}
    (known : k.templates.require template = .ok t)
    (made : k.createClosure template parent = .ok (id, k₁))
    (children : t.topChildren = before ++ index :: after)
    (earlier : Steps ((k₁.setParams id params).wire id { t with topChildren := before })
      (.done (.ok ()) m))
    (failed : Raises inner (.callSite id index) m fault m') :
    Raises order (.instantiate template parent params) k fault
      ((m'.log (.instantiateFailed id template fault)).raze order id)
  /-- All was wired, but the closure was destroyed meanwhile. -/
  | destroyed {order : EdgeOrder κ} {k k₁ m : Kernel κ} {template : String}
    {parent : Option ClosureId} {params : List (String × Value)} {t : Template κ} {id : ClosureId}
    (known : k.templates.require template = .ok t)
    (made : k.createClosure template parent = .ok (id, k₁))
    (wired : Steps ((k₁.setParams id params).wire id t) (.done (.ok ()) m))
    (gone : id ∉ m.closures) :
    Raises order (.instantiate template parent params) k (.unknownClosure id)
      (m.log (.destroyedWhileInstantiated id template))
  /-- There is no such call site. -/
  | missing {order : EdgeOrder κ} {k : Kernel κ} {parent : ClosureId} {index : Nat} {fault : Fault}
    (missing : k.findCallSite parent index = .error fault) :
    Raises order (.callSite parent index) k fault k
  /-- The child could not be built. -/
  | unbuilt {order inner : EdgeOrder κ} {k m : Kernel κ} {parent : ClosureId} {index : Nat}
    {site : CallSite κ} {fault : Fault} (found : k.findCallSite parent index = .ok site)
    (failed : Raises inner (.instantiate site.template (some parent) []) k fault m) :
    Raises order (.callSite parent index) k fault m
  /-- The host code that binds the child failed. -/
  | unbound {order inner : EdgeOrder κ} {k m m' : Kernel κ} {parent child : ClosureId}
    {index : Nat} {site : CallSite κ} {code : κ} {fault : Fault}
    (found : k.findCallSite parent index = .ok site) (host : site.binding = some code)
    (built : Steps (k.instantiate inner site.template (some parent) []) (.done (.ok child) m))
    (failed : Steps (.react code (.attached parent child) m .done) (.done (.error fault) m')) :
    Raises order (.callSite parent index) k fault (m'.raze order child)

/-- Host code that is bound failed if there is a fault. -/
theorem failed_reactTo {code : Option κ} {occasion : Occasion} {fault : Fault}
    (h : Steps (reactTo code occasion k) (.done (.error fault) k')) :
    ∃ host, code = some host ∧ Steps (.react host occasion k .done) (.done (.error fault) k') := by
  cases code with
  | none => cases h.of_done.1
  | some host => exact ⟨host, rfl, h⟩

/-- When children cannot be made, there is a first one that cannot. -/
theorem failed_makeChildren {id : ClosureId} {indices : List Nat} {fault : Fault}
    (h : EndsIn n (k.makeChildren id indices) (.error fault) k') :
    ∃ before index after inner m i, indices = before ++ index :: after ∧
      Steps (k.makeChildren id before) (.done (.ok ()) m) ∧
      EndsIn i (m.callSite inner id index) (.error fault) k' ∧ i < n := by
  induction indices generalizing k n with
  | nil => cases h.of_done.1
  | cons index rest ih =>
    obtain ⟨inner, i, j, reply, m, makes, ends, within⟩ := h.of_call
    cases reply with
    | error fault' =>
      obtain ⟨eq, rfl⟩ := ends.of_done
      cases eq
      exact ⟨[], index, rest, inner, k, i, rfl, .refl, makes,
        Nat.lt_of_le_of_lt (Nat.le_add_right i j) within⟩
    | ok child =>
      obtain ⟨before, index', after, inner', m', i', rfl, earlier, failed, less⟩ := ih ends
      have first : Steps (k.makeChildren id (index :: before)) (m.makeChildren id before) :=
        .head (.call inner (.callSite id index) k _) (makes.steps.bind _)
      exact ⟨index :: before, index', after, inner', m', i', rfl, first.trans earlier, failed,
        by omega⟩

/-- Wiring fails at the host code of the closure, or at the first child that cannot be made. -/
theorem failed_wire {id : ClosureId} {t : Template κ} {fault : Fault}
    (h : EndsIn n (k.wire id t) (.error fault) k') :
    (∃ code, t.internal = some code ∧
      Steps (.react code (.instantiated id) k .done) (.done (.error fault) k')) ∨
    ∃ before index after inner m i, t.topChildren = before ++ index :: after ∧
      Steps (k.wire id { t with topChildren := before }) (.done (.ok ()) m) ∧
      EndsIn i (m.callSite inner id index) (.error fault) k' ∧ i < n := by
  obtain ⟨i, j, outcome, m, reacts, ends, rfl⟩ := h.of_bind
  cases outcome with
  | error fault' =>
    obtain ⟨eq, rfl⟩ := ends.of_done
    cases eq
    exact .inl (failed_reactTo reacts.steps)
  | ok u =>
    obtain ⟨before, index, after, inner, m', i', children, earlier, failed, less⟩ :=
      failed_makeChildren ends
    have wired : Steps (k.wire id { t with topChildren := before }) (m.makeChildren id before) :=
      reacts.steps.bind _
    exact .inr ⟨before, index, after, inner, m', i', children, wired.trans earlier, failed,
      by omega⟩

/-- An instantiation that failed did so at one of its own steps, or at the first child that could
not be made. -/
theorem Instantiates.raises {template : String} {parent : Option ClosureId}
    {params : List (String × Value)} {fault : Fault}
    (child : ∀ {i : Nat} {inner : EdgeOrder κ} {m m' : Kernel κ} {id : ClosureId} {index : Nat}
      {fault : Fault}, i < n → EndsIn i (m.callSite inner id index) (.error fault) m' →
        Raises inner (.callSite id index) m fault m')
    (h : Instantiates order k template parent params n (.error fault, k')) :
    Raises order (.instantiate template parent params) k fault k' := by
  generalize result : ((.error fault : Except Fault ClosureId), k') = ended at h
  cases h with
  | unknown missing =>
    cases result
    exact .unknown missing
  | refused known dead =>
    cases result
    exact .refused known dead
  | @wired t id k₁ m outcome i known made wires within =>
    cases outcome with
    | error fault' =>
      cases result
      rcases failed_wire wires with ⟨code, host, failed⟩ |
        ⟨before, index, after, inner, m', i', children, earlier, failed, less⟩
      · exact .internal known made host failed
      · exact .child known made children earlier (child (by omega) failed)
    | ok u =>
      simp only [concludeInstantiation] at result
      split at result
      · cases result
      · next gone =>
        cases result
        exact .destroyed known made wires.steps
          (fun live => gone (Std.ExtTreeMap.contains_iff_mem.mpr live))

/-- A child could not be made because there is no such call site, because it could not be built, or
because the host code that binds it failed. -/
theorem Attaches.raises {parent : ClosureId} {index : Nat} {fault : Fault}
    (built : ∀ {i : Nat} {inner : EdgeOrder κ} {m m' : Kernel κ} {template : String}
      {fault : Fault}, i < n →
        EndsIn i (m.instantiate inner template (some parent) []) (.error fault) m' →
        Raises inner (.instantiate template (some parent) []) m fault m')
    (h : Attaches order k parent index n (.error fault, k')) :
    Raises order (.callSite parent index) k fault k' := by
  generalize result : ((.error fault : Except Fault ClosureId), k') = ended at h
  cases h with
  | unknown missing =>
    cases result
    exact .missing missing
  | unbuilt found failed within =>
    cases result
    exact .unbuilt found (built within failed)
  | bound found builds binds => cases result
  | unbound found builds binds =>
    cases result
    obtain ⟨code, host, failed⟩ := failed_reactTo binds
    exact .unbound found host builds failed

/-- The fault of a call that builds is that of the step that failed. By induction on the number of
steps: an instantiation makes its children, and a call site its child, in fewer than it takes. -/
theorem raises_of_endsIn {c : Call} (builds : c.builds = true) {fault : Fault}
    (h : EndsIn n (c.activity order k) (.error fault) k') : Raises order c k fault k' := by
  induction n using Nat.strongRecOn generalizing order c k k' fault with
  | ind n ih =>
    cases c with
    | instantiate template parent params =>
      exact (instantiates h).raises fun less failed =>
        ih _ less (c := .callSite ..) rfl failed
    | callSite parent index =>
      exact (attaches h).raises fun less failed =>
        ih _ less (c := .instantiate ..) rfl failed
    | run template => cases builds
    | drain => cases builds
    | drainEvents => cases builds

end Kernel

end ReactiveKernel
