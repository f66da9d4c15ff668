import ReactiveKernel.Proofs.Pardon.Drain
import ReactiveKernel.Proofs.Run.Script

/-!
# Runs by the same script

Two runs go by the same script, but in the second one host code ends as a contrast says. One step
keeps the runs coupled, and so do all steps, unless a callback has failed and that is not passed
over. Runs that are coupled agree in all that can be observed.
-/

namespace ReactiveKernel

variable {κ α : Type}

/-- The script by which host code makes the same requests and ends with other outcomes. -/
def Script.amended (s : Script κ) (mend : Occasion → Except Fault Unit → Except Fault Unit) :
    Script κ where
  behave n code occasion := (s.behave n code occasion).amended (mend occasion)
  order := s.order

/-- Host code that goes by the script goes on in the same way in both runs. -/
structure Script.Overlooks (C : Contrast) (s : Script κ) : Prop where
  /-- Callbacks do, within their drain. -/
  callbacks : ∀ n code m, (s.behave n code (.notified m)).Overlooks C true
  /-- All other host code does. -/
  others : ∀ n code occasion, (∀ m, occasion ≠ .notified m) →
    (s.behave n code occasion).Overlooks C false
  /-- Sets of subscriptions are walked in the same order. -/
  order : ∀ n, (s.order n).Overlooks C.settle

/-- Host code of every kind goes on in the same way, within a drain if it is a callback. -/
theorem Script.Overlooks.behave {C : Contrast} {s : Script κ} (h : s.Overlooks C) (n : Nat)
    (code : κ) {occasion : Occasion} {within : Bool}
    (drain : ∀ m, occasion = .notified m → within = true) :
    (s.behave n code occasion).Overlooks C within := by
  cases occasion with
  | notified m =>
    obtain rfl := drain m rfl
    exact h.callbacks n code m
  | instantiated c | attached parent child | invoked =>
    exact (h.others n code _ (by simp)).within within

namespace Activity

/-- The host code that is due, and its occasion. -/
def summons? : Activity κ α → Option (κ × Occasion)
  | .react code occasion _ _ => some (code, occasion)
  | _ => none

/-- The program of the host code that is in control. -/
def program? : Activity κ α → Option (Program κ (Except Fault Unit))
  | .host p _ _ => some p
  | _ => none

/-- The command that is given at this point, and the answer that it gets. -/
def answer? (order : EdgeOrder κ) : Activity κ α → Option ((c : Command κ) × Except Fault c.Reply)
  | .host (.command c _) k _ => some ⟨c, (c.perform order k).1⟩
  | _ => none

end Activity

namespace Contrast

open Activity Kernel

/-- All that can be observed at a point of the first run can be observed at a point of the second
one. -/
structure Agree (C : Contrast) (c : Call) (a a' : Activity κ (Except Fault c.Reply)) : Prop where
  /-- The states are the same but for the settings: all tables, the counters of identifiers, the
  generation, what is pending and what is queued. -/
  state : a'.kernel.toState = a.kernel.toState.resettle C.settle
  /-- The sinks are the same, and so are the recorded trace events. -/
  tracer : a'.kernel.tracer = a.kernel.tracer
  /-- The journals tell the same as far as they are compared. -/
  journal : C.hears a'.kernel = C.hears a.kernel
  /-- The same host code is due on the same occasion, callbacks among others, if any is. -/
  due : a'.summons? = a.summons?
  /-- Host code is in control at the same point of the same program, if it is. -/
  program : ∃ occasion, a'.program? = a.program?.map (·.amended (C.mend occasion))
  /-- The same command is given, if one is, and gets the same answer. -/
  answer : ∀ order : EdgeOrder κ, order.Overlooks C.settle → a'.answer? order = a.answer? order
  /-- The call has ended in both runs or in none, with the same result as far as it is compared. -/
  result : a'.result?.map (Except.map (C.viewReply c)) = a.result?.map (Except.map (C.viewReply c))

variable {C : Contrast} {within : Bool} {k₀ : Kernel κ} {s : Script κ}

/-! Steps. -/

section Steps

variable {ends : α → Kernel κ → α → Kernel κ → Prop} {fits : α → Kernel κ → Prop}
  {a a' : Activity κ α}

/-- One step keeps the runs coupled, unless a callback fails and that is not passed over. -/
theorem Coupled.advance (h : C.Coupled ends a a') (overlooks : s.Overlooks C) (n : Nat)
    (keeps : a.Keeps (.retention κ) (fun _ k => k.toState.Consistent) k₀)
    (spared : C.forgives = true ∨ ¬(a.advance (s.behave n) (s.order n)).kernel.Faulted) :
    C.Coupled ends (a.advance (s.behave n) (s.order n))
      (a'.advance ((s.amended C.mend).behave n) (s.order n)) := by
  have blind := overlooks.order n
  cases h with
  | done ended => exact .done ended
  | react code occasion beside drain rest parts =>
    exact .host _ occasion (overlooks.behave n code drain) beside rest parts
  | @call c _ k _ _ _ beside rest =>
    refine (coupled_activity beside blind c).bind (fun r m r' m' returned => ?_)
      fun r m marred => ?_
    · exact rest r r' m m' returned.1 returned.2
    · have passes : (Contract.retention κ).Passes k m :=
        ⟨marred.consistent, fun _ => marred.faulted, trivial⟩
      exact marred.kernel (keeps.2.2 r m passes)
  | @host p occasion _ k k' _ _ same beside rest parts =>
    cases p with
    | pure r =>
      have bears : C.Bears occasion r := by
        by_contra fails
        have faulted := (parts r k fails beside.consistent).faulted
        rcases spared with forgives | unfaulted
        · exact fails (.inl forgives)
        · exact unfaulted faulted
      exact rest r k k' bears beside
    | inspect f =>
      have seen : f k'.toState = f k.toState := by rw [beside.state, same.1]
      simp only [Program.amended, Program.bind, Activity.advance, seen]
      exact .host _ occasion (same.2 _) beside rest parts
    | probe q f =>
      obtain ⟨reply, back⟩ := beside.probe q
      simp only [Program.amended, Program.bind, Activity.advance, reply]
      exact .host _ occasion (same _) back rest parts
    | command c f =>
      obtain ⟨reply, back⟩ := beside.perform blind c
      simp only [Program.amended, Program.bind, Activity.advance, reply]
      exact .host _ occasion (same _) back rest parts
    | call c f =>
      refine (coupled_activity beside blind c).bind (fun r m r' m' returned => ?_)
        fun r m marred => marred
      simp only [same.1 r r' returned.1]
      exact .host _ occasion (same.2 r) returned.2 rest parts

/-- A failed callback at some step is still told of at the next one. -/
theorem faulted_succ (keeps : a.Keeps (.retention κ) fits k₀) {n : Nat}
    (faulted : (a.after s n).kernel.Faulted) : (a.after s (n + 1)).kernel.Faulted := by
  have sound := Contract.retention_sound (κ := κ)
  have here := (sound.steps keeps (steps_after s a n)).here sound.toOrdered
  exact (sound.steps here (steps_advance _)).leads_kernel faulted

/-- The runs stay coupled, unless a callback fails and that is not passed over. -/
theorem Coupled.after (h : C.Coupled ends a a') (overlooks : s.Overlooks C)
    (keeps : a.Keeps (.retention κ) (fun _ k => k.toState.Consistent) k₀) (n : Nat)
    (spared : C.forgives = true ∨ ¬(a.after s n).kernel.Faulted) :
    C.Coupled ends (a.after s n) (a'.after (s.amended C.mend) n) := by
  induction n with
  | zero => exact h
  | succ n ih =>
    have unfaulted := spared.imp_right fun spared faulted => spared (faulted_succ keeps faulted)
    have before := ih unfaulted
    have here := Contract.retention_sound.steps keeps (steps_after s a n)
    exact before.advance overlooks n here spared

end Steps

/-! Observations. -/

/-- Answers that are alike look the same as far as they are compared. -/
theorem AnswersAlike.viewed {c : Call} {r r' : Except Fault c.Reply}
    (h : C.AnswersAlike within c r r') : r'.map (C.viewReply c) = r.map (C.viewReply c) := by
  unfold AnswersAlike at h
  split at h
  · rw [h]
  · exact h

section Observations

variable {c : Call} {a a' : Activity κ (Except Fault c.Reply)}

/-- The kernels of coupled activities are beside one another. -/
theorem Coupled.beside (h : C.Coupled (C.Returned within c) a a') :
    ∃ within, C.Beside within a.kernel a'.kernel := by
  cases h with
  | done returned => exact ⟨within, returned.2⟩
  | react code occasion beside drain rest parts => exact ⟨_, beside⟩
  | host p occasion same beside rest parts => exact ⟨_, beside⟩
  | call c beside rest => exact ⟨_, beside⟩

/-- The same program is in control of coupled activities, with another outcome. -/
theorem Coupled.program (h : C.Coupled (C.Returned within c) a a') :
    ∃ occasion, a'.program? = a.program?.map (·.amended (C.mend occasion)) := by
  cases h with
  | host p occasion same beside rest parts => exact ⟨occasion, rfl⟩
  | done | react | call => exact ⟨.invoked, rfl⟩

/-- The same command is given by coupled activities, with the same answer. -/
theorem Coupled.answer (h : C.Coupled (C.Returned within c) a a') {order : EdgeOrder κ}
    (blind : order.Overlooks C.settle) : a'.answer? order = a.answer? order := by
  cases h with
  | host p occasion same beside rest parts =>
    cases p with
    | command d f =>
      have reply := (beside.perform blind d).1
      simp only [Program.amended, Program.bind, Activity.answer?, reply]
    | _ => rfl
  | done | react | call => rfl

/-- All that can be observed of coupled activities agrees. -/
theorem Coupled.agree (h : C.Coupled (C.Returned within c) a a') : C.Agree c a a' := by
  obtain ⟨_, beside⟩ := h.beside
  refine ⟨beside.state, beside.alike.records.1, beside.alike.records.2, ?_, h.program,
    fun order blind => h.answer blind, ?_⟩
  · cases h <;> rfl
  · cases h with
    | done returned => exact congrArg some returned.1.viewed
    | host | react | call => rfl

end Observations

end Contrast

end ReactiveKernel
