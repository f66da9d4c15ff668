import ReactiveKernel.Proofs.Ledger.Recording
import ReactiveKernel.Proofs.Run.Action

/-!
# Drains are recorded

A drain takes what is pending as a wave, and takes the turns of the wave in order, whatever the
callbacks do. So the journal stays orderly, and tells what is due, in every run.
-/

namespace ReactiveKernel

variable {κ : Type}

/-- The journal tells what is due, and whoever has control leaves a wave on its course alone. -/
def Contract.recording (κ : Type) : Contract κ :=
  ⟨Kernel.Recorded, fun _ _ => True, Kernel.Resumes⟩

/-- The journal only grows, and what does not disturb a wave step by step does not disturb it. -/
theorem Contract.recording_ordered : (recording κ).Ordered :=
  ⟨fun _ => trivial, fun _ _ => trivial, Kernel.Resumes.refl, Kernel.Resumes.trans⟩

namespace Kernel

open State

/-- A wave is on its course, and these turns are still to come. -/
structure InWave (k : Kernel κ) (generation : Nat) (rest : List SubscriptionId) : Prop where
  /-- The journal tells what is due. -/
  recorded : k.Recorded
  /-- A drain is running. -/
  draining : k.schedule.draining = true
  /-- The generation of the wave. -/
  generation : k.schedule.generation = generation
  /-- The turns that are to come. -/
  rest : k.ledger.rest = rest

/-- A drain is about to end. -/
structure Ending (k : Kernel κ) : Prop where
  /-- The state is consistent. -/
  consistent : k.toState.Consistent
  /-- The journal is orderly. -/
  orderly : Orderly k.history
  /-- The ledger is right. -/
  agrees : k.ledger.Agrees k.toState
  /-- A drain is running. -/
  draining : k.schedule.draining = true
  /-- No turns are to come. -/
  rest : k.ledger.rest = []
  /-- Nothing is pending. -/
  pending : ∀ id, id ∉ k.schedule.pending

variable {k k' : Kernel κ} {g : Nat} {id : SubscriptionId} {rest : List SubscriptionId}

/-- A wave goes on when control comes back. -/
theorem InWave.resume (h : k.InWave g rest) (back : (Contract.recording κ).Passes k k') :
    k'.InWave g rest := by
  have resumes : k.Resumes k' := back.returns
  refine ⟨back.holds, resumes.draining.trans h.draining, ?_, ?_⟩
  · exact (resumes.generation h.draining).trans h.generation
  · exact (resumes.rest h.draining).trans h.rest

/-- One more entry within a wave. -/
theorem InWave.next {o : Occurrence κ} {rest' : List SubscriptionId}
    {turn : Option SubscriptionId} (h : k.InWave g rest)
    (history : k'.history = k.history ++ [o]) (state : k'.toState = k.toState)
    (fits : Fits k.history o) (inside : o.isBoundary = false)
    (silent : ∀ e, o = .announced e → e.mayCall = false)
    (record : k.ledger.record o = k.ledger.turned rest' turn) :
    k'.InWave g rest' ∧ k'.ledger.turn = turn := by
  have agrees := h.recorded.agrees
  have ledger := ledger_snoc history
  have draining : k'.schedule.draining = true := by
    rw [state]
    exact h.draining
  have generation : k'.schedule.generation = g := by
    rw [state]
    exact h.generation
  have recorded : k'.Recorded := by
    refine h.recorded.next history (state ▸ h.recorded.consistent) fits inside ?_ ?_ ?_
    · rw [record, state]
      exact ⟨agrees.registered, agrees.owner, agrees.stamp, agrees.generation, agrees.draining⟩
    · intro id
      rw [state, or_iff_left (Ledger.not_calls silent id)]
    · intro idle
      rw [draining] at idle
      cases idle
  rw [record] at ledger
  exact ⟨⟨recorded, draining, generation, congrArg Ledger.rest ledger⟩, congrArg Ledger.turn ledger⟩

/-- Quiet entries within a wave. -/
theorem InWave.quiet (h : k.InWave g rest) (history : k'.history = k.history)
    (state : k'.toState = k.toState) : k'.InWave g rest := by
  have same : k.toState.SameStamps k'.toState := state ▸ .refl _
  obtain ⟨recorded, resumes⟩ := h.recorded.still same (by rw [state]) history
  exact h.resume ⟨recorded, trivial, resumes⟩

/-- The turn of a subscription that is gone. -/
theorem InWave.stale (h : k.InWave g (id :: rest)) (gone : k.edges.callback? id = none) :
    (k.log (.stale id g)).InWave g rest := by
  have agrees := h.recorded.agrees
  have unregistered : k.ledger.registered id = none := by
    rw [agrees.registered, h.recorded.consistent.indexed.callback_none gone]
    rfl
  have now : g = k.ledger.generation := h.generation.symm.trans agrees.generation.symm
  have turned : k.ledger.record (.logged (.stale id g) : Occurrence κ) =
      k.ledger.turned rest none := by
    simp only [Ledger.record, Ledger.turned, h.rest, List.tail_cons]
  have history : (k.log (.stale id g)).history = k.history ++ [.logged (.stale id g)] :=
    history_log k _
  exact (h.next history rfl ⟨now, ⟨rest, h.rest⟩, unregistered⟩ rfl (by rintro _ ⟨⟩) turned).1

/-- The turn of a subscription whose callback starts. -/
theorem InWave.start {e : Subscription} {code : κ} (h : k.InWave g (id :: rest))
    (here : k.edges.callback? id = some (e, code)) :
    (k.startCallback ⟨id, e.source, e.target, g⟩).InWave g rest ∧
      (k.startCallback ⟨id, e.source, e.target, g⟩).ledger.turn = some id := by
  let n : Notification := ⟨id, e.source, e.target, g⟩
  have notified : (k.emit (.notified id g)).InWave g (id :: rest) :=
    (h.next (o := .announced (.notified id g)) (history_emit k _) rfl trivial rfl
      (by rintro _ ⟨⟩; rfl) (congrArg (k.ledger.turned · k.ledger.turn) h.rest)).1
  have agrees := notified.recorded.agrees
  have registered : (k.emit (.notified id g)).ledger.registered id = some e.listing := by
    rw [agrees.registered, toState_emit, callback_some here]
    rfl
  have now : g = (k.emit (.notified id g)).ledger.generation :=
    notified.generation.symm.trans agrees.generation.symm
  have turned : (k.emit (.notified id g)).ledger.record (.started n : Occurrence κ) =
      (k.emit (.notified id g)).ledger.turned rest (some id) := by
    simp only [Ledger.record, Ledger.turned, notified.rest, List.tail_cons, n]
  exact notified.next (o := .started n) (history_note _ _) rfl
    ⟨now, ⟨rest, notified.rest⟩, e.listing, registered, rfl, rfl⟩ rfl (by rintro _ ⟨⟩) turned

/-- The end of a callback. -/
theorem InWave.finish (h : k.InWave g rest) (n : Notification) (outcome : Except Fault Unit) :
    (k.finishCallback n outcome).InWave g rest ∧
      (k.finishCallback n outcome).ledger.turn = k.ledger.turn := by
  have quiet : (k.finishCallback n outcome).history = k.history := by
    simp [finishCallback, history_note, Occurrence.isQuiet]
  exact ⟨h.quiet quiet rfl, by rw [ledger_of_history quiet]⟩

/-- The report of a callback that failed. -/
theorem InWave.failed (h : k.InWave g rest) (fault : Fault) :
    (k.log (.callbackFailed id g fault)).InWave g rest := by
  have history : (k.log (.callbackFailed id g fault)).history =
      k.history ++ [.logged (.callbackFailed id g fault)] := history_log k _
  exact (h.next history rfl trivial rfl (by rintro _ ⟨⟩)
    (congrArg (k.ledger.turned · k.ledger.turn) h.rest)).1

/-- The report of a wave that was delivered. -/
theorem InWave.drained (h : k.InWave g []) (callbacks : Nat) :
    (k.emit (.generationDrained g callbacks)).InWave g [] := by
  have now : g = k.ledger.generation :=
    h.generation.symm.trans h.recorded.agrees.generation.symm
  exact (h.next (o := .announced (.generationDrained g callbacks)) (history_emit k _) rfl
    ⟨now, h.rest⟩ rfl (by rintro _ ⟨⟩; rfl) (congrArg (k.ledger.turned · k.ledger.turn) h.rest)).1

/-- Nothing is pending. -/
theorem InWave.done (h : k.InWave g []) (empty : k.schedule.pending.isEmpty = true) :
    k.Ending := by
  have nothing := SubscriptionSet.isEmpty_iff.mp empty
  exact ⟨h.recorded.consistent, h.recorded.orderly, h.recorded.agrees, h.draining, h.rest, nothing⟩

/-- Nothing is pending any more, and no more turns are taken. -/
theorem InWave.discard {e : LogEvent} (h : k.InWave g rest) (ours : e.isOfDrain = true)
    (fits : Fits k.history (.logged e))
    (record : ∃ turn, k.ledger.record (.logged e : Occurrence κ) = k.ledger.turned [] turn) :
    (k.discardPending.log e).Ending := by
  obtain ⟨turn, record⟩ := record
  have agrees := h.recorded.agrees
  have history : (k.discardPending.log e).history = k.history ++ [.logged e] := by
    rw [history_log, ours]
    rfl
  have ledger := ledger_snoc history
  rw [record] at ledger
  have nothing (id : SubscriptionId) : id ∉ (k.discardPending.log e).schedule.pending :=
    Std.ExtTreeSet.not_mem_empty
  have links := (SameStamps.withPending k.toState ∅).toSameLinks
  refine ⟨links.consistent h.recorded.consistent fun id hid => absurd hid (nothing id), ?_, ?_,
    h.draining, congrArg Ledger.rest ledger, nothing⟩
  · rw [history]
    exact .snoc h.recorded.orderly fits
  · rw [ledger]
    exact ⟨agrees.registered, agrees.owner, agrees.stamp, agrees.generation, agrees.draining⟩

/-- The drain is aborted by the callback that was started last. -/
theorem InWave.abort {n : Notification} (h : k.InWave g rest) (generation : n.generation = g)
    (turn : k.ledger.turn = some n.subscription) (fault : Fault) :
    (k.abortDrain n fault).Ending := by
  have now : n.generation = k.ledger.generation :=
    generation.trans (h.generation.symm.trans h.recorded.agrees.generation.symm)
  exact h.discard rfl ⟨now, turn⟩ ⟨k.ledger.turn, rfl⟩

/-- The drain reached the limit of waves. -/
theorem InWave.overrun (h : k.InWave g []) : k.overrun.2.Ending :=
  h.discard rfl trivial ⟨k.ledger.turn, congrArg (k.ledger.turned · k.ledger.turn) h.rest⟩

/-- The wave that is taken is what is due. -/
theorem InWave.takeWave (h : k.InWave g []) :
    k.takeWave.2.InWave (g + 1) k.schedule.pending.toList := by
  let o : Occurrence κ := .waveTaken (k.generation + 1) k.schedule.pending.toList
  have agrees := h.recorded.agrees
  have history : k.takeWave.2.history = k.history ++ [o] := history_note _ _
  have now : k.generation = g := h.generation
  have ledger : k.takeWave.2.ledger = k.ledger.record o := ledger_snoc history
  have ordered : k.schedule.pending.toList.Pairwise fun a b => compare a b = .lt :=
    Std.ExtTreeSet.ordered_toList
  have ascending : k.schedule.pending.toList.Pairwise fun a b => a.raw < b.raw :=
    ordered.imp fun h => Nat.compare_eq_lt.mp h
  have nothing (id : SubscriptionId) : id ∉ k.takeWave.2.schedule.pending :=
    Std.ExtTreeSet.not_mem_empty
  refine ⟨⟨?_, ?_, ?_, ?_, ?_⟩, h.draining, congrArg (· + 1) now, by rw [ledger]; rfl⟩
  · have links : k.toState.SameLinks k.takeWave.2.toState :=
      ⟨rfl, rfl, fun _ => rfl, fun _ => rfl⟩
    exact links.consistent h.recorded.consistent fun id hid => absurd hid (nothing id)
  · rw [history]
    refine .snoc h.recorded.orderly
      ⟨agrees.draining.trans h.draining, h.rest, congrArg (· + 1) ?_, ascending, fun id => ?_⟩
    · exact agrees.generation.symm
    · rw [Std.ExtTreeSet.mem_toList, h.recorded.due]
  · rw [ledger]
    exact ⟨agrees.registered, agrees.owner, agrees.stamp, rfl, agrees.draining⟩
  · intro id
    rw [history]
    exact iff_of_false (nothing id) (Due.snoc_boundary rfl)
  · intro idle
    have running : k.takeWave.2.schedule.draining = true := h.draining
    rw [running] at idle
    cases idle

/-- A drain starts. -/
theorem Recorded.beginDrain (h : k.Recorded) (idle : k.schedule.draining = false) :
    k.beginDrain.InWave k.generation [] := by
  let e : TraceEvent := .drainStarted k.generation k.schedule.pending.size
  have agrees := h.agrees
  have history : k.beginDrain.history = k.history ++ [.announced e] := history_emit k _
  have fits : Fits k.history (.announced e) := agrees.draining.trans idle
  have links : k.toState.SameLinks k.beginDrain.toState :=
    ⟨rfl, rfl, fun _ => rfl, fun _ => rfl⟩
  refine ⟨h.next history (links.consistent h.consistent h.consistent.issued.pending) fits rfl ?_ ?_
    ?_, rfl, rfl, ?_⟩
  · exact ⟨agrees.registered, agrees.owner, agrees.stamp, agrees.generation, rfl⟩
  · intro id
    exact (or_iff_left (Ledger.not_calls (by rintro _ ⟨⟩; rfl) id)).symm
  · rintro ⟨⟩
  · rw [ledger_snoc history]
    exact h.idle idle

/-- The entries and the schedule at the end of a drain. -/
theorem Ending.recorded {report : DrainReport} {overrun : Bool} (h : k.Ending)
    (history : k'.history = k.history ++
      [.announced (.drainFinished report.endGeneration report.waves overrun)] ++
      [.logged (.drainEnded report overrun)])
    (state : k'.toState = { k.toState with schedule := { k.schedule with draining := false } }) :
    k'.Recorded := by
  have agrees := h.agrees
  have ledger : k'.ledger = k.ledger.announce
      (.drainFinished report.endGeneration report.waves overrun) := by
    rw [Kernel.ledger, history, Ledger.of_snoc, Ledger.of_snoc]
    rfl
  have links : k.toState.SameLinks k'.toState := by
    rw [state]
    exact ⟨rfl, rfl, fun _ => rfl, fun _ => rfl⟩
  have nothing (id : SubscriptionId) : id ∉ k'.schedule.pending := by
    rw [state]
    exact h.pending id
  refine ⟨links.consistent h.consistent fun id hid => absurd hid (nothing id), ?_, ?_, ?_, ?_⟩
  · rw [history]
    exact .snoc (.snoc h.orderly ⟨agrees.draining.trans h.draining, h.rest⟩) trivial
  · rw [ledger, state]
    exact ⟨agrees.registered, agrees.owner, agrees.stamp, agrees.generation, rfl⟩
  · intro id
    rw [history, Due.snoc, or_iff_right (Ledger.not_calls (by rintro _ ⟨⟩) id)]
    exact iff_of_false (nothing id) fun due => Due.snoc_boundary rfl due.2
  · intro _
    rw [ledger]
    exact h.rest

/-- What is written at the end of a drain. -/
theorem history_endDrain (k : Kernel κ) (outcome : Except Fault Unit) (report : DrainReport) :
    ∃ overrun, (k.endDrain outcome report).history = k.history ++
      [.announced (.drainFinished report.endGeneration report.waves overrun)] ++
      [.logged (.drainEnded report overrun)] := by
  cases outcome with
  | ok u => exact ⟨false, by simp [Kernel.endDrain, history_log, LogEvent.isOfDrain]⟩
  | error fault =>
    exact ⟨fault.isCycleOverrun, by simp [Kernel.endDrain, history_log, LogEvent.isOfDrain]⟩

/-- A drain ends. -/
theorem Ending.endDrain (h : k.Ending) (outcome : Except Fault Unit) (report : DrainReport) :
    (k.endDrain outcome report).Recorded ∧
      (k.endDrain outcome report).schedule.draining = false := by
  obtain ⟨overrun, history⟩ := history_endDrain k outcome report
  exact ⟨h.recorded history rfl, rfl⟩

end Kernel

namespace Contract

open Kernel

variable {k : Kernel κ} {g : Nat}

/-- How a wave ends. -/
def Delivered (g : Nat) : Except Fault Unit × WaveTally → Kernel κ → Prop
  | (.ok (), _), k => k.InWave g []
  | (.error _, _), k => k.Ending

/-- The delivery of a wave keeps the ledger in agreement. By induction on the turns to come. -/
theorem recording_deliver (wave : List SubscriptionId) (tally : WaveTally)
    (h : k.InWave g wave) : (k.deliver g wave tally).Keeps (recording κ) (Delivered g) k := by
  induction wave generalizing tally k with
  | nil => exact ⟨trivial, h⟩
  | cons id rest ih =>
    simp only [Kernel.deliver]
    split
    · next gone => exact (ih _ (h.stale gone)).earlier recording_ordered trivial
    · next e code here =>
      obtain ⟨started, turn⟩ := h.start here
      refine ⟨trivial, started.recorded, fun outcome k' back => ?_⟩
      have resumes : Kernel.Resumes _ k' := back.returns
      obtain ⟨finished, same⟩ := (started.resume back).finish ⟨id, e.source, e.target, g⟩ outcome
      cases outcome with
      | ok u => exact (ih _ finished).earlier recording_ordered trivial
      | error fault =>
        simp only
        split
        · exact (ih _ (finished.failed fault)).earlier recording_ordered trivial
        · refine ⟨trivial, finished.abort rfl ?_ fault⟩
          rw [same, resumes.turn started.draining, turn]

/-- The waves of a drain keep the ledger in agreement. By induction on how many remain. -/
theorem recording_waves (remaining : Nat) (report : DrainReport) (h : k.InWave g []) :
    (k.waves remaining report).Keeps (recording κ) (fun _ k => k.Ending) k := by
  induction remaining generalizing report g k with
  | zero =>
    unfold Kernel.waves
    split
    · next empty => exact ⟨trivial, h.done empty⟩
    · exact ⟨trivial, h.overrun⟩
  | succ remaining ih =>
    unfold Kernel.waves
    split
    · next empty => exact ⟨trivial, h.done empty⟩
    · have taken := h.takeWave
      have same : k.takeWave.2.generation = g + 1 := taken.generation
      simp only [same]
      refine .earlier recording_ordered trivial (.bind recording_ordered
        ((recording_deliver _ _ taken).mono ?_))
      rintro ⟨outcome, tally⟩ k' delivered
      cases outcome with
      | error fault => exact ⟨trivial, delivered⟩
      | ok u =>
        have drained := InWave.drained delivered tally.callbacks
        exact (ih _ drained).earlier recording_ordered trivial

/-- A drain keeps the ledger in agreement. -/
theorem recording_drain (h : k.Recorded) : k.drain.Safe (recording κ) k := by
  unfold Kernel.drain
  split
  · exact .done (recording_ordered.passes_refl h)
  · next running =>
    have idle : k.schedule.draining = false := Bool.eq_false_iff.mpr running
    split
    · exact .done (recording_ordered.passes_refl h)
    · refine Activity.Keeps.earlier recording_ordered trivial (.bind recording_ordered
        ((recording_waves _ _ (h.beginDrain idle)).mono ?_))
      rintro ⟨outcome, report⟩ k' ending
      obtain ⟨recorded, ended⟩ := ending.endDrain outcome report
      refine ⟨trivial, recorded, trivial, ended.trans idle.symm, ?_, ?_, ?_⟩ <;>
        exact fun draining => absurd draining running

/-- Operations other than drains keep the ledger in agreement. -/
theorem recording_stable : (recording κ).Stable where
  toOrdered := recording_ordered
  act order k k' action recorded := by
    obtain ⟨_, effect⟩ := action.effect (Recorded.consistent recorded)
    obtain ⟨recorded', resumes⟩ := Recorded.effect recorded effect
    exact ⟨recorded', trivial, resumes⟩

/-- Probes keep the ledger in agreement. -/
theorem recording_probe (p : Probe) (h : k.Recorded) : (recording κ).Passes k (p.perform k).2 := by
  have quiet : (p.perform k).2.history = k.history := by
    cases p with
    | remark text => simp [Probe.perform, history_note, Occurrence.isQuiet]
    | _ => rfl
  have same : k.toState.SameStamps (p.perform k).2.toState := by
    rw [toState_probe]
    exact .refl _
  obtain ⟨recorded, resumes⟩ := h.still same (by rw [toState_probe]) quiet
  exact ⟨recorded, trivial, resumes⟩

/-- The ledger is in agreement in every run. -/
theorem recording_sound : (recording κ).Sound :=
  recording_stable.sound (fun p _ recorded => recording_probe p recorded)
    fun _ recorded => recording_drain recorded

end Contract

namespace Kernel

/-- A new kernel has no history. -/
theorem history_create (settings : Settings) (templates : TemplateLibrary κ) :
    (Kernel.create settings templates).history = [] := by
  simp [create, history_log, LogEvent.isOfDrain]
  rfl

/-- The ledger of a new kernel is in agreement. -/
theorem recorded_create (settings : Settings) (templates : TemplateLibrary κ) :
    (Kernel.create settings templates).Recorded := by
  have empty := history_create settings templates
  have blank : (Kernel.create settings templates).ledger = .blank := by
    rw [Kernel.ledger, empty]
    rfl
  refine ⟨consistent_create settings templates, empty ▸ .nil, blank ▸ ⟨?_, ?_, ?_, rfl, rfl⟩, ?_,
    fun _ => by rw [blank]; rfl⟩
  · intro id
    simp [create, log, note, State.initial, EdgeTable.empty, Ledger.blank]
  · intro d x hd
    simp [create, log, note, State.initial] at hd
  · intro node n stamp
    cases node <;> simp [create, log, note, State.initial, State.stamp?] at stamp
  · intro id
    rw [empty]
    refine iff_of_false ?_ Due.nil
    simp [create, log, note, State.initial, Schedule.initial]

/-- The journal of a reachable kernel tells what is due. -/
theorem Reachable.recorded {k : Kernel κ} (h : k.Reachable) : k.Recorded :=
  Contract.recording_sound.reachable recorded_create h

end Kernel

end ReactiveKernel
