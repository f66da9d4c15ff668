import ReactiveKernel.Proofs.Intake.Patience
import ReactiveKernel.Proofs.Twins.Run

/-!
# Applying events is calling directly

An outside event names a node by its raw number, and its parity says what kind of node it is. To
apply the waiting events and drain is the same as doing the operations that they ask for directly,
one after another and whatever the answers, and then draining. An event on a datum with an odd
number asks for nothing.
-/

namespace ReactiveKernel

variable {κ : Type}

namespace Event

/-- The operation that an event asks for, if there is one. -/
def direct? : Event κ → Option (Command κ)
  | .set node field value => some (.set (.ofRaw node) field value)
  | .setItems datum items => (DatumId.ofRaw? datum).map (.setItems · items)
  | .setAvailability datum a => (DatumId.ofRaw? datum).map (.setAvailability · a)
  | .setError datum payload => (DatumId.ofRaw? datum).map (.setError · payload)
  | .invoke _ => none

/-- Whether an event runs host code. -/
def isInvoke : Event κ → Bool
  | .invoke _ => true
  | _ => false

end Event

/-- Host code that gives commands one after another, whatever the answers, and then drains. -/
def Program.thenDrain : List (Command κ) → Program κ (Except Fault DrainReport)
  | [] => .call .drain .pure
  | c :: cs => .command c fun _ => thenDrain cs

/-- A program that makes one call answers as the call does. -/
theorem Program.exec_call (order : EdgeOrder κ)
    (call : (c : Call) → Kernel κ → Option (Except Fault c.Reply × Kernel κ)) (c : Call)
    (k : Kernel κ) : (Program.call c .pure).exec order call k = call c k := by
  simp only [exec]
  cases call c k <;> rfl

namespace Event

variable {event : Event κ}

/-- An event that runs no host code asks for an operation, or its number is of the wrong kind. -/
theorem toCommand_direct (plain : event.isInvoke = false) :
    (∃ c, event.direct? = some c ∧ event.toCommand = .ok (some c)) ∨
      event.direct? = none ∧ ∃ fault, event.toCommand = .error fault := by
  cases event with
  | invoke code => cases plain
  | set node field value => exact .inl ⟨_, rfl, rfl⟩
  | setItems datum _ | setAvailability datum _ | setError datum _ =>
    simp only [direct?, toCommand, DatumId.ofRaw]
    cases DatumId.ofRaw? datum with
    | none => exact .inr ⟨rfl, _, rfl⟩
    | some d => exact .inl ⟨_, rfl, rfl⟩

/-- What an event asks for is what it stands for. -/
theorem toCommand_of_direct? {c : Command κ} (asked : event.direct? = some c) :
    event.toCommand = .ok (some c) := by
  have plain : event.isInvoke = false := by
    cases event with
    | invoke code => cases asked
    | _ => rfl
  rcases toCommand_direct plain with ⟨c', direct, stands⟩ | ⟨none, _⟩
  · rw [stands, Option.some.inj (direct.symm.trans asked)]
  · rw [none] at asked
    cases asked

end Event

namespace Kernel

/-- Whether the operation that an event asks for is done. -/
def accepts (k : Kernel κ) (order : EdgeOrder κ) (event : Event κ) : Bool :=
  match event.direct? with
  | none => false
  | some c => (c.perform order k).1.isOk

/-- The kernel after the operation that an event asks for. -/
def handle (k : Kernel κ) (order : EdgeOrder κ) (event : Event κ) : Kernel κ :=
  match event.direct? with
  | none => k
  | some c => (c.perform order k).2

/-- How many of the operations that events ask for are done, one after another. -/
def countAccepted (order : EdgeOrder κ) : List (Event κ) → Kernel κ → Nat
  | [], _ => 0
  | event :: rest, k =>
    (k.accepts order event).toNat + countAccepted order rest (k.handle order event)

variable {k k' : Kernel κ} {order : EdgeOrder κ}

/-- No more operations are done than events are applied. -/
theorem countAccepted_le (order : EdgeOrder κ) (events : List (Event κ)) (k : Kernel κ) :
    countAccepted order events k ≤ events.length := by
  induction events generalizing k with
  | nil => exact Nat.le_refl 0
  | cons event rest ih =>
    have later := ih (k.handle order event)
    have now := (k.accepts order event).toNat_le
    simp only [countAccepted, List.length_cons]
    omega

/-- Commands are given directly one after another, and then comes the drain. -/
theorem execute_thenDrain (h : Host κ) (depth : Nat) (events : List (Event κ)) (k : Kernel κ) :
    h.execute depth (.thenDrain (events.filterMap Event.direct?)) k =
      (h.engine depth).call .drain (events.foldl (fun k e => k.handle h.order e) k) := by
  induction events generalizing k with
  | nil =>
    exact Program.exec_call h.order (fun c k => (h.engine depth).call c k) .drain k
  | cons event rest ih =>
    rw [List.foldl_cons, ← ih]
    cases asked : event.direct? with
    | none => simp only [List.filterMap_cons, asked, handle]
    | some c =>
      simp only [List.filterMap_cons, asked, handle, Program.thenDrain, Host.execute,
        Program.exec]

/-- What becomes of an operation that an event asks for. -/
theorem done_perform (k : Kernel κ) (order : EdgeOrder κ) (c : Command κ) :
    ((c.perform order k).1.isOk = true ∧ (c.perform order k).1.map (fun _ => ()) = .ok ()) ∨
    ((c.perform order k).1.isOk = false ∧ (c.perform order k).2 = k ∧
      ∃ fault, (c.perform order k).1.map (fun _ => ()) = .error fault) := by
  cases attempted : c.attempt order k with
  | ok done =>
    obtain ⟨reply, k'⟩ := done
    rw [Command.perform_of_ok attempted]
    exact .inl ⟨rfl, rfl⟩
  | error fault =>
    rw [Command.perform_of_error attempted]
    exact .inr ⟨rfl, rfl, fault, rfl⟩

/-- What becomes of an event that runs no host code. -/
theorem applyEvent_direct (k : Kernel κ) (order : EdgeOrder κ) {event : Event κ}
    (plain : event.isInvoke = false) :
    (k.accepts order event = true ∧
      k.applyEvent order event = .done (.ok ()) (k.handle order event)) ∨
    (k.accepts order event = false ∧ k.handle order event = k ∧
      ∃ fault, k.applyEvent order event = .done (.error fault) k) := by
  rcases Event.toCommand_direct plain with ⟨c, direct, command⟩ | ⟨direct, fault, command⟩
  · have applied : k.applyEvent order event =
        .done ((c.perform order k).1.map fun _ => ()) (c.perform order k).2 := by
      cases event with
      | invoke code => cases plain
      | _ => simp only [applyEvent, command]
    simp only [applied, accepts, handle, direct]
    rcases k.done_perform order c with ⟨accepted, reply⟩ | ⟨refused, same, fault, reply⟩
    · exact .inl ⟨accepted, by rw [reply]⟩
    · exact .inr ⟨refused, same, fault, by rw [reply, same]⟩
  · have applied : k.applyEvent order event = .done (.error fault) k := by
      cases event with
      | invoke code => cases plain
      | _ => simp only [applyEvent, command]
    simp only [applied, accepts, handle, direct]
    exact .inr ⟨trivial, trivial, fault, rfl⟩

end Kernel

/-- Kernels with the same state and the same sinks and recordings. -/
def Likeness.traced (κ : Type) : Likeness κ where
  alike k k' := k.tracer = k'.tracer
  lists := Eq
  sees _ := Eq

namespace Likeness

open Kernel

/-- Whatever is done alike keeps sinks and recordings the same. -/
theorem traced_sound : (traced κ).Sound :=
  sound_of_eq rfl (fun _ _ same => same) (fun _ same => same)
    (fun e same => congrArg (Tracer.record · e) same) fun p same => probe_of_tracer p same

/-- All host code goes on in the same way when the instruments show the same. -/
theorem traced_blind {α : Type} (p : Program κ α) : p.Blind (traced κ) := by
  induction p with
  | pure a => trivial
  | inspect f ih => exact ih
  | probe q f ih => exact ⟨fun r r' same => congrArg f same, ih⟩
  | command c f ih => exact ih
  | call c f ih => exact ih

end Likeness

namespace Kernel

open Likeness

variable {k k' : Kernel κ} {order : EdgeOrder κ}

/-- The operation of an event does the same to twins. -/
theorem handle_twins (order : EdgeOrder κ) (event : Event κ) (h : (traced κ).Twins k k') :
    k.accepts order event = k'.accepts order event ∧
      (traced κ).Twins (k.handle order event) (k'.handle order event) := by
  simp only [accepts, handle]
  cases event.direct? with
  | none => exact ⟨rfl, h⟩
  | some c =>
    have orders : (traced κ).Orders order order := fun _ _ _ => rfl
    have performed := traced_sound.twins_perform orders c h
    exact ⟨congrArg Except.isOk performed.1, performed.2⟩

/-- What an event asks for has nothing to do with outside events. -/
theorem undisturbed_handle (k : Kernel κ) (order : EdgeOrder κ) (event : Event κ) :
    k.Undisturbed (k.handle order event) := by
  simp only [handle]
  cases asked : event.direct? with
  | none => exact .refl k
  | some c => exact undisturbed_event k order (event.toCommand_of_direct? asked)

/-- A kernel is a twin of what it was before an entry was made. -/
theorem twins_noted (o : Occurrence κ) (h : (traced κ).Twins k k') :
    (traced κ).Twins (k.note o) k' :=
  ⟨⟨h.state, h.records⟩, h.consistent⟩

/-- Events that run no host code are applied at once, as if their operations were called. -/
theorem applyEvents_direct (order : EdgeOrder κ) (events : List (Event κ))
    (plain : ∀ e ∈ events, e.isInvoke = false) (applied rejected : Nat)
    (h : (traced κ).Twins k k') : ∃ m,
      k.applyEvents order events applied rejected =
        .done (applied + countAccepted order events k',
          rejected + (events.length - countAccepted order events k')) m ∧
      (traced κ).Twins m (events.foldl (fun k e => k.handle order e) k') ∧
      m.inbox = k.inbox ∧ m.puts = k.puts := by
  induction events generalizing applied rejected k k' with
  | nil => exact ⟨k, rfl, h, rfl, rfl⟩
  | cons event rest ih =>
    have later := fun e he => plain e (List.mem_cons_of_mem event he)
    have fewer := countAccepted_le order rest (k'.handle order event)
    have begun := twins_noted (.applying event) h
    have unput : (k.note (.applying event)).puts = k.puts := by
      rw [puts_note]
      exact List.append_nil _
    obtain ⟨same, handled⟩ := handle_twins order event begun
    have quiet := undisturbed_handle (k.note (.applying event)) order event
    simp only [applyEvents, countAccepted, List.length_cons, List.foldl_cons, ← same]
    rcases (k.note (.applying event)).applyEvent_direct order (plain event (by simp)) with
      ⟨accepted, done⟩ | ⟨refused, unchanged, fault, done⟩
    · obtain ⟨m, ends, twins, inbox, puts⟩ := ih later (applied + 1) rejected handled
      refine ⟨m, ?_, twins, inbox.trans quiet.inbox, puts.trans (quiet.puts.trans unput)⟩
      simp only [done, Activity.bind, ends, accepted, Bool.toNat_true]
      congr 2 <;> omega
    · rw [unchanged] at handled
      obtain ⟨m, ends, twins, inbox, puts⟩ := ih later applied (rejected + 1)
        (twins_noted (.logged (.eventRejected event.tag fault)) handled)
      refine ⟨m, ?_, twins, inbox, puts.trans ?_⟩
      · simp only [done, Activity.bind, log, ends, refused, Bool.toNat_false]
        congr 2 <;> omega
      · rw [puts_note, unput]
        exact List.append_nil _

end Kernel

end ReactiveKernel
