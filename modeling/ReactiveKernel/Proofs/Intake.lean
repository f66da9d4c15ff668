import ReactiveKernel.Proofs.Intake.Direct

/-!
# Outside events and direct calls

Applying the waiting events and draining refines direct calls: for every kernel that a run can come
to, every queue of events that run no host code and every host, it has the result that the direct
operations followed by a drain have, and it leaves the same state behind. The waiting events are
used up, even when the drain fails, and afterwards the queue holds what was put meanwhile. Within a
drain the request is refused and nothing happens.
-/

namespace ReactiveKernel

variable {κ : Type}

namespace Kernel

open Likeness

variable {h : Host κ} {depth : Nat} {k k' : Kernel κ}

/-- The report of a drain after so many events were applied and so many were refused. -/
def withCounts (applied rejected : Nat) (r : Except Fault DrainReport) : Except Fault DrainReport :=
  r.map fun report => { report with eventsApplied := applied, eventsRejected := rejected }

/-- The call to apply the waiting events, when the first part of it needs no host code. -/
theorem call_drainEvents (idle : k.schedule.draining = false) {counts : Nat × Nat} {m : Kernel κ}
    (applied : k.takeEvents.2.applyEvents h.order k.inbox 0 0 = .done counts m) :
    (h.engine (depth + 1)).call .drainEvents k =
      ((h.engine depth).call .drain (m.log (.eventsApplied counts.1 counts.2))).map fun r =>
        (withCounts counts.1 counts.2 r.1, r.2) := by
  have first : k.drainEvents h.order = (k.takeEvents.2.applyEvents h.order k.inbox 0 0).bind
      fun counts k => .call .drain (k.log (.eventsApplied counts.1 counts.2)) fun r k =>
        .done (withCounts counts.1 counts.2 r) k := by
    rw [drainEvents, if_neg (by simp [idle])]
    refine congrArg (Activity.bind (k.takeEvents.2.applyEvents h.order k.inbox 0 0))
      (funext₂ fun counts m => ?_)
    refine congrArg (Activity.call .drain (m.log (.eventsApplied counts.1 counts.2)))
      (funext₂ fun r _ => ?_)
    cases r <;> rfl
  have called : (h.engine (depth + 1)).call .drainEvents k =
      (k.drainEvents h.order).run (h.engine depth) := rfl
  rw [called, first, applied]
  simp only [Activity.bind, Activity.run]
  cases (h.engine depth).call .drain (m.log (.eventsApplied counts.1 counts.2)) with
  | none => rfl
  | some r =>
    obtain ⟨r, k'⟩ := r
    cases r <;> rfl

/-- Applying the waiting events, if none runs host code, does the direct operations and leaves an
empty queue to the drain. -/
theorem drainEvents_direct (h : Host κ) (depth : Nat) (consistent : k.toState.Consistent)
    (idle : k.schedule.draining = false) (plain : ∀ e ∈ k.inbox, e.isInvoke = false) :
    ∃ m, (h.engine (depth + 1)).call .drainEvents k = ((h.engine depth).call .drain m).map (fun r =>
        (withCounts (countAccepted h.order k.inbox k.takeEvents.2)
          (k.inbox.length - countAccepted h.order k.inbox k.takeEvents.2) r.1, r.2)) ∧
      (traced κ).Twins m (k.inbox.foldl (fun k e => k.handle h.order e) k.takeEvents.2) ∧
      m.inbox = [] ∧ m.puts = k.puts := by
  have self : (traced κ).Twins k k := ⟨⟨rfl, rfl⟩, consistent⟩
  obtain ⟨m, ends, twins, inbox, puts⟩ :=
    applyEvents_direct h.order k.inbox plain 0 0 (traced_sound.twins_takeEvents self)
  rw [Nat.zero_add, Nat.zero_add] at ends
  refine ⟨_, call_drainEvents idle ends, twins_noted _ twins, inbox, ?_⟩
  exact (Undisturbed.log m _).puts.trans puts

/-- The same result but for the two counts of events, and the same state, sinks and recordings. -/
def Refines (applied rejected : Nat) (x y : Except Fault DrainReport × Kernel κ) : Prop :=
  x.1 = withCounts applied rejected y.1 ∧ x.2.toState = y.2.toState ∧ x.2.tracer = y.2.tracer

/-- To apply the waiting events is refused within a drain, and then nothing happens. Otherwise, if
no waiting event runs host code, it has the result that the direct operations and then a drain have,
but for the counts of the events whose operation was done and of the others; neither returns if the
other does not. It leaves the same state behind, in which the queue holds what was put meanwhile. A
refused event changes nothing. -/
theorem intake_refines_direct (h : Host κ) (depth : Nat) (reachable : k.Reachable) :
    (k.schedule.draining = true →
      (h.engine (depth + 1)).call .drainEvents k = some (.error .reentrant, k)) ∧
    (k.schedule.draining = false → (∀ e ∈ k.inbox, e.isInvoke = false) →
      (∃ applied rejected, applied = countAccepted h.order k.inbox k.takeEvents.2 ∧
        applied + rejected = k.inbox.length ∧
        Option.Rel (Refines applied rejected) ((h.engine (depth + 1)).call .drainEvents k)
          (h.execute depth (.thenDrain (k.inbox.filterMap Event.direct?)) k.takeEvents.2)) ∧
      ∀ r k', (h.engine (depth + 1)).call .drainEvents k = some (r, k') →
        k'.puts = k.puts ++ k'.inbox) ∧
    ∀ (m : Kernel κ) (e : Event κ), e.isInvoke = false → m.accepts h.order e = false →
      m.handle h.order e = m ∧ ∃ fault, m.applyEvent h.order e = .done (.error fault) m := by
  refine ⟨fun draining => ?_, fun idle plain => ?_, fun m e unrun refused => ?_⟩
  · have refused : k.drainEvents h.order = .done (.error .reentrant) k := if_pos draining
    have called : (h.engine (depth + 1)).call .drainEvents k =
        (k.drainEvents h.order).run (h.engine depth) := rfl
    rw [called, refused]
    rfl
  · obtain ⟨m, called, twins, inbox, puts⟩ :=
      drainEvents_direct h depth reachable.consistent idle plain
    refine ⟨⟨_, _, rfl, Nat.add_sub_cancel' (countAccepted_le _ _ _), ?_⟩, fun r k' run => ?_⟩
    · have engines := engines_agree traced_sound (fun _ _ _ => rfl) (rfl : h.behave = h.behave)
        (fun _ _ => traced_blind _) depth
      rw [called, execute_thenDrain]
      rcases (engines.call .drain twins).cases with ⟨ends, ends'⟩ | ⟨r, n, n', ends, ends', back⟩
      · rw [ends, ends']
        exact .none
      · rw [ends, ends']
        exact .some ⟨rfl, back.state, back.records⟩
    · rw [called] at run
      obtain ⟨⟨r', n⟩, drained, same⟩ := Option.map_eq_some_iff.mp run
      cases same
      obtain ⟨events, put, queue⟩ := gathers_of_drain h twins.consistent drained
      rw [put, queue, puts, inbox, List.nil_append]
  · rcases m.applyEvent_direct h.order unrun with ⟨accepted, _⟩ | ⟨_, same, fault, ends⟩
    · rw [refused] at accepted
      cases accepted
    · exact ⟨same, fault, ends⟩

/-- A host whose code puts an event. -/
def echoing : Host Unit where
  behave _ _ := .command (.putEvent (.set 0 "value" .null)) fun _ => .pure (.ok ())

/-- A watched record with four waiting events. Two of them are on the record; of the others one has
the number of a closure where that of a datum is due, and one is on a datum that is not there. -/
def mixed : Kernel Unit :=
  (Kernel.create .standard .empty).performAll .ascending
    [.createDatum "Cell" [] none, .subscribe (.datum ⟨0⟩) (.datum ⟨0⟩) .everything (),
      .putEvent (.set 0 "value" (.bool true)), .putEvent (.setItems 1 []),
      .putEvent (.set 4 "value" .null), .putEvent (.setAvailability 0 .loading)]

/-- Two events are applied and two refused, and the queue holds the one that the callback put. -/
theorem intake_refines_direct_mixed :
    mixed.Reachable ∧ mixed.schedule.draining = false ∧ mixed.inbox.length = 4 ∧
    Option.Rel (Refines 2 2) ((echoing.engine 3).call .drainEvents mixed)
      (echoing.execute 2 (.thenDrain (mixed.inbox.filterMap Event.direct?)) mixed.takeEvents.2) ∧
    ∃ report k', (echoing.engine 3).call .drainEvents mixed = some (.ok report, k') ∧
      k'.inbox.length = 1 ∧ k'.puts = mixed.puts ++ k'.inbox := by
  have reachable : mixed.Reachable := reachable_performAll _ _ _ _
  have idle : mixed.schedule.draining = false := by decide
  have plain : ∀ e ∈ mixed.inbox, e.isInvoke = false := by decide
  obtain ⟨⟨applied, rejected, count, sum, refines⟩, queue⟩ :=
    (intake_refines_direct echoing 2 reachable).2.1 idle plain
  have four : mixed.inbox.length = 4 := by decide
  have two : countAccepted echoing.order mixed.inbox mixed.takeEvents.2 = 2 := by decide
  obtain rfl : applied = 2 := count.trans two
  obtain rfl : rejected = 2 := by omega
  obtain ⟨report, k', called⟩ : ∃ report k',
      (echoing.engine 3).call .drainEvents mixed = some (.ok report, k') := ⟨_, _, rfl⟩
  have one : ((echoing.engine 3).call .drainEvents mixed).map (fun r => r.2.inbox.length) =
      some 1 := rfl
  rw [called] at one
  exact ⟨reachable, idle, four, refines, report, k', called, Option.some.inj one, queue _ _ called⟩

end Kernel

end ReactiveKernel
