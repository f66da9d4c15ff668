import ReactiveKernel.Proofs.Intake.Queue
import ReactiveKernel.Proofs.Run.Ending

/-!
# The order in which events are begun

To apply the waiting events takes the whole queue at once, and then the taken events wait until
their turn comes. Code that is invoked meanwhile may put more events and apply these before those
that were taken earlier, since only a running drain refuses to apply events. So no event is begun
more often than it was put, but events are begun in the order of arrival only if nobody applies
events while taken ones still wait.
-/

namespace ReactiveKernel

variable {κ : Type}

namespace Kernel

/-- What was put is what was begun, then some taken events that wait, and then the queue, up to a
relation between lists of events. -/
def Waits (R : List (Event κ) → List (Event κ) → Prop) (waiting : List (Event κ)) (k : Kernel κ) :
    Prop :=
  R k.puts (k.begun ++ waiting ++ k.inbox)

/-- No event waits that was taken from the queue. -/
def CaughtUp (k : Kernel κ) : Prop := k.puts = k.begun ++ k.inbox

variable {R : List (Event κ) → List (Event κ) → Prop} {k k' : Kernel κ} {waiting : List (Event κ)}

/-- Events go on waiting as long as the queue and the record of events stay as they are. -/
theorem SameIntake.waits (h : k.SameIntake k') (waits : k.Waits R waiting) :
    k'.Waits R waiting := by
  rw [Waits, h.puts, h.begun, h.inbox]
  exact waits

/-- An event that is begun does not wait any more. -/
theorem Waits.applying {event : Event κ} (waits : k.Waits R (event :: waiting)) :
    (k.note (.applying event)).Waits R waiting := by
  have puts : (k.note (.applying event)).puts = k.puts :=
    (puts_note k (.applying event)).trans (List.append_nil _)
  have begun : (k.note (.applying event)).begun = k.begun ++ [event] :=
    begun_note k (.applying event)
  rw [Waits, puts, begun, List.append_assoc k.begun]
  exact waits

/-- An event that is put comes last. -/
theorem Waits.putEvent (snoc : ∀ a b e, R a b → R (a ++ [e]) (b ++ [e]))
    (waits : k.Waits R waiting) (event : Event κ) : (k.putEvent event).Waits R waiting := by
  have puts : (k.putEvent event).puts = k.puts ++ [event] := puts_note _ (.queued event)
  have begun : (k.putEvent event).begun = k.begun :=
    (begun_note _ (.queued event)).trans (List.append_nil _)
  have inbox : (k.putEvent event).inbox = k.inbox ++ [event] := rfl
  rw [Waits, puts, begun, inbox, ← List.append_assoc]
  exact snoc _ _ event waits

end Kernel

/-- A call that takes events from the queue while others that were taken earlier still wait. -/
def Call.Overtakes (c : Call) (k : Kernel κ) : Prop :=
  c = .drainEvents ∧ k.schedule.draining = false ∧ k.inbox ≠ [] ∧ ¬ k.CaughtUp

/-- Some taken events wait, and whoever gets control leaves them waiting. -/
def Contract.keeping (R : List (Event κ) → List (Event κ) → Prop) : Contract κ :=
  ⟨fun k => ∃ waiting, k.Waits R waiting, fun _ _ => True,
    fun k k' => ∀ waiting, k.Waits R waiting → k'.Waits R waiting⟩

namespace Contract

open Kernel

variable {R : List (Event κ) → List (Event κ) → Prop} {k k' : Kernel κ}

/-- Nothing is asked of what whoever has control leads to. -/
theorem keeping_ordered : (keeping R).Ordered where
  refl _ := trivial
  trans _ _ := trivial
  returns_refl _ _ waits := waits
  returns_trans h h' waiting waits := h' waiting (h waiting waits)

/-- Whoever leaves waiting events waiting passes the contract. -/
theorem keeping_passes (holds : (keeping R).holds k)
    (kept : ∀ waiting, k.Waits R waiting → k'.Waits R waiting) : (keeping R).Passes k k' := by
  obtain ⟨waiting, waits⟩ := holds
  exact ⟨⟨waiting, kept waiting waits⟩, trivial, kept⟩

variable (snoc : ∀ a b e, R a b → R (a ++ [e]) (b ++ [e]))

include snoc in
/-- Commands, probes and the beginning of an event leave waiting events waiting. -/
theorem keeping_steady : (keeping R).Steady where
  toOrdered := keeping_ordered
  deed _ _ _ done holds := by
    refine keeping_passes holds fun waiting waits => ?_
    rcases done.sameIntake with ⟨event, rfl⟩ | same
    · exact waits.putEvent snoc event
    · exact same.waits waits

/-- Drains leave waiting events waiting. -/
theorem keeping_drainable : (keeping R).Drainable where
  toOrdered := keeping_ordered
  drainAct action holds := keeping_passes holds fun _ waits => action.undisturbed.waits waits

include snoc

/-- Taken events are begun one after another, and those behind them are left waiting. -/
theorem keeping_applyEvents (order : EdgeOrder κ) (events : List (Event κ))
    (applied rejected : Nat) (holds : ∃ waiting, k.Waits R (events ++ waiting)) :
    (k.applyEvents order events applied rejected).Keeps (keeping R)
      (fun _ k' => ∀ waiting, k.Waits R (events ++ waiting) → k'.Waits R waiting) k := by
  induction events generalizing applied rejected k with
  | nil => exact ⟨trivial, fun _ waits => waits⟩
  | cons event rest ih =>
    obtain ⟨waiting, waits⟩ := holds
    have begun : (keeping R).holds (k.note (.applying event)) := ⟨_, waits.applying⟩
    have applies := (keeping_steady snoc).applyEvent order event begun
    refine .bind keeping_ordered
      ((applies.mono fun r k' back => ?_).earlier keeping_ordered trivial)
    have later : ∀ waiting, k.Waits R (event :: rest ++ waiting) → k'.Waits R (rest ++ waiting) :=
      fun _ waits => back.returns _ waits.applying
    cases r with
    | ok u =>
      refine (ih _ _ ⟨waiting, later _ waits⟩).mono fun _ _ kept more waits => ?_
      exact kept more (later more waits)
    | error fault =>
      have logged := Undisturbed.log k' (.eventRejected event.tag fault)
      have next := ih applied (rejected + 1) ⟨waiting, logged.waits (later _ waits)⟩
      refine (next.mono fun _ _ kept more waits => ?_).earlier keeping_ordered trivial
      exact kept more (logged.waits (later more waits))

/-- The waiting events are applied, if they may be begun before all events that were taken earlier.
-/
theorem keeping_drainEvents (order : EdgeOrder κ) (holds : (keeping R).holds k)
    (take : k.schedule.draining = false → ∀ waiting, k.Waits R waiting →
      k.takeEvents.2.Waits R (k.inbox ++ waiting)) :
    (k.drainEvents order).Safe (keeping R) k := by
  unfold Kernel.drainEvents
  split
  · exact keeping_ordered.done holds _
  · next idle =>
    have taken := take (Bool.eq_false_iff.mpr idle)
    obtain ⟨waiting, waits⟩ := holds
    have applies := keeping_applyEvents snoc order k.inbox 0 0 ⟨waiting, taken _ waits⟩
    refine Activity.Keeps.bind keeping_ordered ((applies.mono ?_).earlier keeping_ordered trivial)
    rintro ⟨applied, rejected⟩ k' kept
    have begun : (keeping R).Passes k (k'.log (.eventsApplied applied rejected)) :=
      keeping_passes ⟨waiting, waits⟩ fun _ waits =>
        (Undisturbed.log k' _).waits (kept _ (taken _ waits))
    refine Activity.Safe.earlier keeping_ordered begun
      (.call keeping_ordered begun.holds fun r k'' back => ?_)
    cases r with
    | ok report => exact keeping_ordered.done back _
    | error fault => exact keeping_ordered.done back _

/-- Runs keep events waiting in which events are taken only as they may be. -/
theorem keeping_sound {calls : Call → Kernel κ → Prop}
    (take : ∀ k : Kernel κ, calls .drainEvents k → k.schedule.draining = false →
      ∀ waiting, k.Waits R waiting → k.takeEvents.2.Waits R (k.inbox ++ waiting)) :
    (keeping R).SoundFor calls where
  toOrdered := keeping_ordered
  command order c _ holds := (keeping_steady snoc).deed order (.command c) holds
  probe p k holds := keeping_passes holds fun _ waits => (undisturbed_probe p k).waits waits
  call order c k made holds := by
    have steady := keeping_steady snoc
    cases c with
    | instantiate template parent params =>
      exact steady.instantiate order template parent params holds
    | callSite parent index => exact steady.callSite order parent index holds
    | run template => exact steady.run order template holds
    | drain => exact keeping_drainable.drain holds
    | drainEvents => exact keeping_drainEvents snoc order holds (take k made)

end Contract

namespace Kernel

open Activity Contract

variable {k : Kernel κ} {waiting : List (Event κ)}

/-- In whatever order events wait, taking the queue leaves all of them waiting. -/
theorem takeEvents_waits_perm (waits : k.Waits List.Perm waiting) :
    k.takeEvents.2.Waits List.Perm (k.inbox ++ waiting) := by
  have rearranged :
      (k.begun ++ waiting ++ k.inbox).Perm (k.begun ++ (k.inbox ++ waiting) ++ []) := by
    rw [List.append_nil, List.append_assoc]
    exact List.perm_append_comm.append_left _
  exact List.Perm.trans waits rearranged

/-- If no taken event waits, or nothing is taken, then the events that wait stay in order. -/
theorem takeEvents_waits_eq (idle : k.schedule.draining = false)
    (behind : ¬ Call.drainEvents.Overtakes k) (waits : k.Waits Eq waiting) :
    k.takeEvents.2.Waits Eq (k.inbox ++ waiting) := by
  have order : k.puts = k.begun ++ waiting ++ k.inbox := waits
  have same : waiting ++ k.inbox = k.inbox ++ waiting := by
    by_cases empty : k.inbox = []
    · rw [empty, List.append_nil, List.nil_append]
    · have settled : k.CaughtUp := by
        by_contra unsettled
        exact behind ⟨rfl, idle, empty, unsettled⟩
      have none : waiting = [] := by
        have cancel : k.begun ++ (waiting ++ k.inbox) = k.begun ++ k.inbox := by
          rw [← List.append_assoc, ← order]
          exact settled
        exact List.append_left_eq_self.mp (List.append_cancel_left cancel)
      rw [none, List.append_nil, List.nil_append]
  have goal : k.puts = k.begun ++ (k.inbox ++ waiting) ++ [] := by
    rw [order, List.append_nil, ← same, List.append_assoc]
  exact goal

/-- At every moment of every run, the events that were begun are among those that were put, none of
them more often. In a run in which events are never applied while some wait that were taken earlier,
the events that were begun are the first of those that were put, in the order of arrival. -/
theorem begun_in_order {begin a : Activity κ (Except Fault Unit)} (starts : Starts begin) :
    (Steps begin a → a.kernel.begun.Subperm a.kernel.puts) ∧
      (StepsCalling (fun c k => ¬ c.Overtakes k) begin a → a.kernel.begun <+: a.kernel.puts) := by
  refine ⟨fun steps => ?_, fun steps => ?_⟩
  · have sound : (keeping (κ := κ) List.Perm).SoundFor fun _ _ => True :=
      keeping_sound (fun _ _ _ perm => perm.append_right _) fun _ _ _ _ => takeEvents_waits_perm
    obtain ⟨⟨waiting, waits⟩, _⟩ := sound.visited (fun _ _ => ⟨[], .refl _⟩) starts
      (steps.calling fun _ _ => trivial)
    have among : a.kernel.begun.Sublist (a.kernel.begun ++ waiting ++ a.kernel.inbox) := by
      rw [List.append_assoc]
      exact List.sublist_append_left _ _
    exact among.subperm.trans (List.Perm.subperm (List.Perm.symm waits))
  · have sound : (keeping (κ := κ) Eq).SoundFor fun c k => ¬ c.Overtakes k :=
      keeping_sound (fun _ _ _ same => by rw [same]) fun _ behind idle _ =>
        takeEvents_waits_eq idle behind
    obtain ⟨⟨waiting, waits⟩, _⟩ := sound.visited (fun _ _ => ⟨[], rfl⟩) starts steps
    have order : a.kernel.puts = a.kernel.begun ++ waiting ++ a.kernel.inbox := waits
    rw [order, List.append_assoc]
    exact List.prefix_append _ _

/-- Two events on a collection are put. -/
def twoPut : List (Command Unit) :=
  [.createCollection "List" [] none, .putEvent (.setAvailability 0 .loading),
    .putEvent (.setItems 0 [])]

/-- Give commands and apply the waiting events. -/
def thenApply (cs : List (Command Unit)) : Program Unit (Except Fault Unit) :=
  (Program.commands cs).bind fun _ => .call .drainEvents fun r => .pure (r.map fun _ => ())

/-- Two events are begun as they arrived. -/
theorem begun_in_order_twoPut : ∃ a : Activity Unit (Except Fault Unit),
    StepsCalling (fun c k => ¬ c.Overtakes k)
      (.host (thenApply twoPut) (create .standard .empty) .done) a ∧
    a.kernel.begun.map Event.tag = ["set_availability", "set_items"] ∧
    a.kernel.begun.Subperm a.kernel.puts ∧ a.kernel.begun <+: a.kernel.puts := by
  let k := (create .standard .empty).performAll .ascending twoPut
  have put : StepsCalling (fun c k => ¬ c.Overtakes k)
      (.host (thenApply twoPut) (create .standard .empty) .done)
      (.host (.call .drainEvents fun r => .pure (r.map fun _ => ())) k .done) :=
    stepsCalling_commands _ .ascending twoPut _ _ _
  have settled : k.CaughtUp := rfl
  have applied := put.tail ⟨fun overtakes => overtakes.2.2.2 settled,
    .request .ascending .drainEvents _ k .done⟩
  have steps : Steps _ _ := Relation.ReflTransGen.mono (fun _ _ step => step.2) _ _ applied
  have starts : Starts (.host (thenApply twoPut) (create .standard .empty) .done) :=
    ⟨_, _, _, rfl⟩
  exact ⟨_, applied, by decide +kernel, (begun_in_order starts).1 steps,
    (begun_in_order starts).2 applied⟩

/-- A host whose invoked code puts an event and applies the waiting ones. -/
def hasty : Host Unit where
  behave _ _ := thenApply [.putEvent (.setItems 0 [])]

/-- An event is invoked before another one, and its code puts a third one and applies it. Then this
one is begun before the second one, which arrived earlier. -/
theorem begun_out_of_order : ∃ begin a : Activity Unit (Except Fault Unit),
    Starts begin ∧ Steps begin a ∧
    a.kernel.puts.map Event.tag = ["invoke", "set_availability", "set_items"] ∧
    a.kernel.begun.map Event.tag = ["invoke", "set_items", "set_availability"] ∧
    ¬ a.kernel.begun <+: a.kernel.puts := by
  let p := thenApply [.createCollection "List" [] none, .putEvent (.invoke ()),
    .putEvent (.setAvailability 0 .loading)]
  have tags : (hasty.execute 4 p (create .standard .empty)).map
      (fun x => (x.2.puts.map Event.tag, x.2.begun.map Event.tag)) =
      some (["invoke", "set_availability", "set_items"],
        ["invoke", "set_items", "set_availability"]) := by decide +kernel
  obtain ⟨⟨r, k⟩, run, same⟩ := Option.map_eq_some_iff.mp tags
  obtain ⟨puts, begun⟩ : k.puts.map Event.tag = _ ∧ k.begun.map Event.tag = _ := Prod.mk.inj same
  refine ⟨_, .host (.pure r) k .done, ⟨_, _, p, rfl⟩, (hasty.follows 4).exec run .done, puts, begun,
    fun ordered => ?_⟩
  have mapped : k.begun.map Event.tag <+: k.puts.map Event.tag := ordered.map Event.tag
  rw [puts, begun] at mapped
  exact absurd mapped (by decide)

end Kernel

end ReactiveKernel
