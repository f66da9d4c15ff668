import Mathlib.Logic.Relation
import ReactiveKernel.Execution.Host

/-!
# Runs step by step

A run of a kernel goes from one activity to the next. Host code that is due may be any program,
and every set of subscriptions may be walked in any order, so host code with a memory of its own
and hosts of every kind are covered. A kernel is reachable when host code is in control of it at
some step of some run; this includes every moment at which host code starts, gets an answer or
ends, however deeply calls are nested and whether or not the run ever ends.
-/

namespace ReactiveKernel

variable {κ α β : Type}

namespace Activity

/-- One step of a run. -/
inductive Step : Activity κ α → Activity κ α → Prop
  /-- Host code that is due starts. -/
  | start (code : κ) (occasion : Occasion) (k : Kernel κ)
      (next : Except Fault Unit → Kernel κ → Activity κ α) (p : Program κ (Except Fault Unit)) :
      Step (.react code occasion k next) (.host p k next)
  /-- Host code ends and the operation that ran it goes on. -/
  | finish (r : Except Fault Unit) (k : Kernel κ)
      (next : Except Fault Unit → Kernel κ → Activity κ α) :
      Step (.host (.pure r) k next) (next r k)
  /-- Host code looks at the state. -/
  | inspect (f : State κ → Program κ (Except Fault Unit)) (k : Kernel κ)
      (next : Except Fault Unit → Kernel κ → Activity κ α) :
      Step (.host (.inspect f) k next) (.host (f k.toState) k next)
  /-- Host code uses the instruments. -/
  | probe (p : Probe) (f : p.Reply → Program κ (Except Fault Unit)) (k : Kernel κ)
      (next : Except Fault Unit → Kernel κ → Activity κ α) :
      Step (.host (.probe p f) k next) (.host (f (p.perform k).1) (p.perform k).2 next)
  /-- Host code gives a command. -/
  | command (order : EdgeOrder κ) (c : Command κ)
      (f : Except Fault c.Reply → Program κ (Except Fault Unit)) (k : Kernel κ)
      (next : Except Fault Unit → Kernel κ → Activity κ α) :
      Step (.host (.command c f) k next)
        (.host (f (c.perform order k).1) (c.perform order k).2 next)
  /-- Host code makes a call. -/
  | request (order : EdgeOrder κ) (c : Call)
      (f : Except Fault c.Reply → Program κ (Except Fault Unit)) (k : Kernel κ)
      (next : Except Fault Unit → Kernel κ → Activity κ α) :
      Step (.host (.call c f) k next)
        ((c.activity order k).bind fun reply k => .host (f reply) k next)
  /-- An operation makes a call. -/
  | call (order : EdgeOrder κ) (c : Call) (k : Kernel κ)
      (next : Except Fault c.Reply → Kernel κ → Activity κ α) :
      Step (.call c k next) ((c.activity order k).bind next)

/-- Any number of steps of a run. -/
abbrev Steps : Activity κ α → Activity κ α → Prop := Relation.ReflTransGen Step

/-- Of three activities in a row, the first two or the last two may be put together. -/
theorem bind_assoc {γ : Type} (a : Activity κ α) (f : α → Kernel κ → Activity κ β)
    (g : β → Kernel κ → Activity κ γ) :
    (a.bind f).bind g = a.bind fun x k => (f x k).bind g := by
  induction a with
  | done a k => rfl
  | react code occasion k next ih => simp only [bind, ih]
  | host p k next ih => simp only [bind, ih]
  | call c k next ih => simp only [bind, ih]

/-- What waits for an activity does not matter for its steps. -/
theorem Step.bind {a b : Activity κ α} (h : Step a b) (f : α → Kernel κ → Activity κ β) :
    Step (a.bind f) (b.bind f) := by
  cases h with
  | start code occasion k next p => exact .start ..
  | finish r k next => exact .finish r k fun r k => (next r k).bind f
  | inspect g k next => exact .inspect ..
  | probe p g k next => exact .probe ..
  | command order c g k next => exact .command ..
  | request order c g k next =>
    rw [bind_assoc]
    exact .request order c g k fun r k => (next r k).bind f
  | call order c k next =>
    rw [bind_assoc]
    exact .call order c k fun r k => (next r k).bind f

/-- What a part of an activity does, the whole does. -/
theorem Steps.bind {a b : Activity κ α} (h : Steps a b) (f : α → Kernel κ → Activity κ β) :
    Steps (a.bind f) (b.bind f) := by
  induction h with
  | refl => exact .refl
  | tail _ step ih => exact ih.tail (step.bind f)

end Activity

namespace Kernel

/-- A run of a new kernel in which host code is in control of the kernel at the end. -/
def Starts (begin : Activity κ (Except Fault Unit)) : Prop :=
  ∃ settings templates p, begin = .host p (Kernel.create settings templates) .done

/-- Host code is in control of the kernel at some step of some run. -/
def Reachable (k : Kernel κ) : Prop :=
  ∃ begin p next, Starts begin ∧ Activity.Steps begin (.host p k next)

/-- Host code is in control of the first kernel at some step of some run, and of the second one
at the same step or at a later one. -/
def Precedes (k k' : Kernel κ) : Prop :=
  ∃ begin p next p' next', Starts begin ∧ Activity.Steps begin (.host p k next) ∧
    Activity.Steps (.host p k next) (.host p' k' next')

/-- Whatever comes after a kernel of a run is reachable. -/
theorem Precedes.reachable {k k' : Kernel κ} (h : k.Precedes k') : k'.Reachable := by
  obtain ⟨begin, p, next, p', next', hs, hk, hk'⟩ := h
  exact ⟨begin, p', next', hs, hk.trans hk'⟩

/-- A kernel of a run is reachable. -/
theorem Precedes.reachable_first {k k' : Kernel κ} (h : k.Precedes k') : k.Reachable := by
  obtain ⟨begin, p, next, _, _, hs, hk, _⟩ := h
  exact ⟨begin, p, next, hs, hk⟩

end Kernel

/-- Host code that gives commands one after another, whatever the answers. -/
def Program.commands : List (Command κ) → Program κ (Except Fault Unit)
  | [] => .pure (.ok ())
  | c :: cs => .command c fun _ => commands cs

/-- The kernel after commands were given one after another. -/
def Kernel.performAll (order : EdgeOrder κ) (cs : List (Command κ)) (k : Kernel κ) : Kernel κ :=
  cs.foldl (fun k c => (c.perform order k).2) k

/-- Commands are given one after another, whatever comes after them. -/
theorem Activity.steps_commands (order : EdgeOrder κ) (cs cs' : List (Command κ)) (k : Kernel κ)
    (next : Except Fault Unit → Kernel κ → Activity κ α) :
    Steps (.host (.commands (cs ++ cs')) k next)
      (.host (.commands cs') (k.performAll order cs) next) := by
  induction cs generalizing k with
  | nil => exact .refl
  | cons c cs ih =>
    exact .head (.command order c (fun _ => Program.commands (cs ++ cs')) k next)
      (ih (c.perform order k).2)

/-- What commands lead to from a new kernel comes before what further commands lead to. -/
theorem Kernel.precedes_performAll (order : EdgeOrder κ) (settings : Settings)
    (templates : TemplateLibrary κ) (cs cs' : List (Command κ)) :
    ((Kernel.create settings templates).performAll order cs).Precedes
      ((Kernel.create settings templates).performAll order (cs ++ cs')) := by
  refine ⟨_, _, _, .commands [], .done, ⟨settings, templates, .commands (cs ++ cs'), rfl⟩,
    Activity.steps_commands order cs cs' _ .done, ?_⟩
  have later := Activity.steps_commands order cs' []
    ((Kernel.create settings templates).performAll order cs) .done
  rw [List.append_nil] at later
  have split : (Kernel.create settings templates).performAll order (cs ++ cs') =
      ((Kernel.create settings templates).performAll order cs).performAll order cs' :=
    List.foldl_append
  rw [split]
  exact later

/-- Whatever commands lead to from a new kernel is reachable. -/
theorem Kernel.reachable_performAll (order : EdgeOrder κ) (settings : Settings)
    (templates : TemplateLibrary κ) (cs : List (Command κ)) :
    ((Kernel.create settings templates).performAll order cs).Reachable :=
  (precedes_performAll order settings templates [] cs).reachable

namespace Host

open Activity

/-- Whatever a host does at some depth are steps of a run. -/
structure Follows (h : Host κ) (depth : Nat) : Prop where
  /-- The calls that return. -/
  call : ∀ c k r k', (h.engine depth).call c k = some (r, k') →
    Steps (c.activity h.order k) (.done r k')
  /-- The host code that ends. -/
  react : ∀ code occasion k r k', (h.engine depth).react code occasion k = some (r, k') →
    ∀ (α : Type) (next : Except Fault Unit → Kernel κ → Activity κ α),
      Steps (.react code occasion k next) (next r k')

/-- Host code that comes to its end does so in steps of a run. -/
theorem Follows.exec {h : Host κ} {depth : Nat} (follows : h.Follows depth)
    {p : Program κ (Except Fault Unit)} {k k' : Kernel κ} {r : Except Fault Unit}
    (run : h.execute depth p k = some (r, k'))
    (next : Except Fault Unit → Kernel κ → Activity κ α) :
    Steps (.host p k next) (.host (.pure r) k' next) := by
  induction p generalizing k with
  | pure a =>
    cases run
    exact .refl
  | inspect f ih => exact .head (.inspect f k next) (ih _ run)
  | probe p f ih => exact .head (.probe p f k next) (ih _ run)
  | command c f ih => exact .head (.command h.order c f k next) (ih _ run)
  | call c f ih =>
    simp only [execute, Program.exec] at run
    cases hc : (h.engine depth).call c k with
    | none => simp [hc] at run
    | some result =>
      obtain ⟨reply, middle⟩ := result
      simp only [hc] at run
      have inner := (follows.call c k reply middle hc).bind fun r k => .host (f r) k next
      exact .head (.request h.order c f k next) (inner.trans (ih reply run))

/-- A host walks sets of subscriptions in one order at every depth. -/
theorem engine_order (h : Host κ) (depth : Nat) : (h.engine depth).order = h.order := by
  cases depth <;> rfl

/-- An activity that comes to its end does so in steps of a run. -/
theorem Follows.activity {h : Host κ} {depth : Nat} (follows : h.Follows depth)
    {a : Activity κ α} {x : α} {k' : Kernel κ} (run : a.run (h.engine depth) = some (x, k')) :
    Steps a (.done x k') := by
  induction a with
  | done a k =>
    cases run
    exact .refl
  | react code occasion k next ih =>
    simp only [Activity.run] at run
    cases hr : (h.engine depth).react code occasion k with
    | none => simp [hr] at run
    | some result =>
      obtain ⟨r, middle⟩ := result
      simp only [hr] at run
      exact (follows.react code occasion k r middle hr α next).trans (ih r middle run)
  | host p k next ih =>
    simp only [Activity.run, engine_order] at run
    cases hp : p.exec h.order (h.engine depth).call k with
    | none => simp [hp] at run
    | some result =>
      obtain ⟨r, middle⟩ := result
      simp only [hp] at run
      exact ((follows.exec hp next).tail (.finish r middle next)).trans (ih r middle run)
  | call c k next ih =>
    simp only [Activity.run] at run
    cases hc : (h.engine depth).call c k with
    | none => simp [hc] at run
    | some result =>
      obtain ⟨r, middle⟩ := result
      simp only [hc] at run
      have inner := (follows.call c k r middle hc).bind next
      exact .head (.call h.order c k next) (inner.trans (ih r middle run))

/-- Whatever a host does is done in steps of a run. -/
theorem follows (h : Host κ) (depth : Nat) : h.Follows depth := by
  induction depth with
  | zero =>
    constructor
    · intro c k r k' run
      simp [engine] at run
    · intro code occasion k r k' run
      simp [engine] at run
  | succ depth ih =>
    constructor
    · intro c k r k' run
      exact ih.activity run
    · intro code occasion k r k' run α next
      exact .head (.start code occasion k next (h.behave code occasion))
        ((ih.exec run next).tail (.finish r k' next))

/-- What a host computes is found at the end of some steps. -/
theorem exists_steps (h : Host κ) (depth : Nat) (c : Call) (k : Kernel κ) (f : Kernel κ → α)
    {r : Except Fault c.Reply} {x : α}
    (run : ((h.engine depth).call c k).map (fun y => (y.1, f y.2)) = some (r, x)) :
    ∃ k', Steps (c.activity h.order k) (.done r k') ∧ f k' = x := by
  obtain ⟨⟨r', k'⟩, returns, same⟩ := Option.map_eq_some_iff.mp run
  obtain ⟨rfl, rfl⟩ := Prod.mk.inj same
  exact ⟨k', (h.follows depth).call c k r' k' returns, rfl⟩

/-- What a host computes from a new kernel is reachable. -/
theorem precedes_of_execute (h : Host κ) {depth : Nat} {p : Program κ (Except Fault Unit)}
    {settings : Settings} {templates : TemplateLibrary κ} {r : Except Fault Unit} {k : Kernel κ}
    (run : h.execute depth p (Kernel.create settings templates) = some (r, k)) :
    (Kernel.create settings templates).Precedes k :=
  ⟨_, p, .done, .pure r, .done, ⟨settings, templates, p, rfl⟩, .refl,
    (h.follows depth).exec run .done⟩

end Host

end ReactiveKernel
