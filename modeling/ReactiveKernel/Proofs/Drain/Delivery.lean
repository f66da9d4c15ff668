import ReactiveKernel.Proofs.Drain.Count
import ReactiveKernel.Proofs.Run.Unwinding

/-!
# How the delivery of a wave ends

When the delivery of a wave has ended, either all turns of the wave were taken, or a callback that
failed has aborted it; the tally is what the journal counts.
-/

namespace ReactiveKernel

variable {κ : Type}

namespace Kernel

/-- What the delivery of a wave comes to. -/
structure Delivery (k : Kernel κ) (wave : List SubscriptionId) (tally : WaveTally)
    (span : List (Occurrence κ)) (result : Except Fault Unit × WaveTally) (k' : Kernel κ) :
    Prop where
  /-- The entries that were written. -/
  journal : k'.journal.toList = k.journal.toList ++ span
  /-- The settings are the same. -/
  settings : k'.settings = k.settings
  /-- The generation is the same. -/
  generation : k'.generation = k.generation
  /-- No wave was taken. -/
  no_wave : taken span = []
  /-- Callbacks were counted. -/
  callbacks : result.2.callbacks = tally.callbacks + (starts span).length
  /-- Skipped subscriptions were counted. -/
  stale : result.2.stale = tally.stale + (skips span).length
  /-- Failures were counted. -/
  failed : result.2.failures = tally.failures + (failures span).length
  /-- A wave that was delivered has had all its turns, and no failure that was to abort it. -/
  delivered : result.1 = .ok () →
    turns span = wave ∧ (k.settings.onFailure = .abort → failures span = [])
  /-- A wave that was not delivered was aborted. -/
  aborted : ∀ fault, result.1 = .error fault →
    k.settings.onFailure = .abort ∧ Aborts span fault

variable {k k₁ k' : Kernel κ} {g : Nat} {wave rest : List SubscriptionId}
  {tally tally₁ : WaveTally} {head span : List (Occurrence κ)}
  {result : Except Fault Unit × WaveTally}

/-- A turn, and then the others. -/
theorem Delivery.cons {id : SubscriptionId} (h : k₁.Delivery rest tally₁ span result k')
    (journal : k₁.journal.toList = k.journal.toList ++ head) (settings : k₁.settings = k.settings)
    (generation : k₁.generation = k.generation) (no_wave : taken head = [])
    (turn : turns head = [id])
    (callbacks : tally₁.callbacks = tally.callbacks + (starts head).length)
    (stale : tally₁.stale = tally.stale + (skips head).length)
    (failed : tally₁.failures = tally.failures + (failures head).length)
    (unfailed : k.settings.onFailure = .abort → failures head = []) :
    k.Delivery (id :: rest) tally (head ++ span) result k' := by
  refine ⟨?_, h.settings.trans settings, h.generation.trans generation, ?_, ?_, ?_, ?_, ?_, ?_⟩
  · rw [h.journal, journal, List.append_assoc]
  · rw [taken_append, no_wave, h.no_wave, List.append_nil]
  · rw [h.callbacks, callbacks, starts_append, List.length_append, Nat.add_assoc]
  · rw [h.stale, stale, skips_append, List.length_append, Nat.add_assoc]
  · rw [h.failed, failed, failures_append, List.length_append, Nat.add_assoc]
  · intro ok
    obtain ⟨whole, none_failed⟩ := h.delivered ok
    refine ⟨by rw [turns_append, turn, whole, List.singleton_append], fun policy => ?_⟩
    rw [failures_append, unfailed policy, none_failed (settings ▸ policy), List.append_nil]
  · intro fault error
    obtain ⟨policy, aborts⟩ := h.aborted fault error
    have here : k.settings.onFailure = .abort := settings ▸ policy
    exact ⟨here, aborts.prepend (unfailed here)⟩

/-- The turn of a subscription whose callback has come to an end, and then the others. -/
theorem Delivery.callback {announced within tail : List (Occurrence κ)} {n : Notification}
    {fault : Option Fault} (h : k₁.Delivery rest tally₁ span result k')
    (before : Idle announced) (inside : Idle within) (after : Idle tail)
    (journal : k₁.journal.toList =
      k.journal.toList ++ (callbackSpan announced n within fault ++ tail))
    (settings : k₁.settings = k.settings) (generation : k₁.generation = k.generation)
    (counted : tally₁ = { tally with
      callbacks := tally.callbacks + 1
      failures := tally.failures + fault.toList.length })
    (unfailed : k.settings.onFailure = .abort → fault = none) :
    k.Delivery (n.subscription :: rest) tally
      (callbackSpan announced n within fault ++ tail ++ span) result k' := by
  subst counted
  refine h.cons journal settings generation ?_ ?_ ?_ ?_ ?_ ?_
  · rw [taken_append, taken_callbackSpan before inside, after.taken, List.append_nil]
  · rw [turns_append, turns_callbackSpan before inside, after.turns, List.append_nil]
  · rw [starts_append, starts_callbackSpan before inside, after.starts]
    rfl
  · rw [skips_append, skips_callbackSpan before inside, after.skips]
    rfl
  · rw [failures_append, failures_callbackSpan before inside, after.failures, List.append_nil]
  · intro policy
    rw [failures_append, failures_callbackSpan before inside, after.failures, unfailed policy]
    rfl

/-- The turn of a subscription whose callback failed and aborted the drain. -/
theorem Delivery.abort {announced within tail : List (Occurrence κ)} {n : Notification}
    {fault : Fault} (before : Idle announced) (inside : Idle within) (after : Idle tail)
    (journal : k'.journal.toList =
      k.journal.toList ++ (callbackSpan announced n within (some fault) ++ tail))
    (settings : k'.settings = k.settings) (generation : k'.generation = k.generation)
    (policy : k.settings.onFailure = .abort) : k.Delivery wave tally
      (callbackSpan announced n within (some fault) ++ tail) (.error fault, { tally with
        callbacks := tally.callbacks + 1
        failures := tally.failures + 1 }) k' := by
  refine ⟨journal, settings, generation, ?_, ?_, ?_, ?_, ?_, ?_⟩
  · rw [taken_append, taken_callbackSpan before inside, after.taken, List.append_nil]
  · rw [starts_append, starts_callbackSpan before inside, after.starts]
    rfl
  · rw [skips_append, skips_callbackSpan before inside, after.skips]
    rfl
  · rw [failures_append, failures_callbackSpan before inside, after.failures]
    rfl
  · intro ok
    cases ok
  · intro other error
    cases error
    have unfailed : failures (announced ++ [.started n] ++ within) = [] := by
      rw [failures_append, failures_append, before.failures, inside.failures]
      rfl
    exact ⟨policy, _, n, tail, by simp [callbackSpan], unfailed, after.starts⟩

end Kernel

namespace Kernel

open Activity Contract

variable {k k' : Kernel κ} {g : Nat}

/-- A callback was started within a wave and has come to its end. -/
structure Called (k : Kernel κ) (n : Notification) (rest : List SubscriptionId) (m : Kernel κ)
    (within : List (Occurrence κ)) : Prop where
  /-- The wave is on its course. -/
  inWave : m.InWave n.generation rest
  /-- The settings are the same. -/
  settings : m.settings = k.settings
  /-- The generation is the same. -/
  generation : m.generation = k.generation
  /-- The callback has written nothing that only drains write. -/
  silent : Silent within
  /-- The entries that were written. -/
  journal : m.journal.toList = k.journal.toList ++
    k.announcement (.notified n.subscription n.generation) ++ [.started n] ++ within

/-- When a callback that was started within a wave has come to its end, the wave goes on. -/
theorem InWave.called {id : SubscriptionId} {rest : List SubscriptionId} {e : Subscription}
    {code : κ} {r : Except Fault Unit} {m : Kernel κ} (inWave : k.InWave g (id :: rest))
    (here : k.edges.callback? id = some (e, code))
    (reacts : Steps (.react code (.notified ⟨id, e.source, e.target, g⟩)
      (k.startCallback ⟨id, e.source, e.target, g⟩) .done) (.done r m)) :
    ∃ within, k.Called ⟨id, e.source, e.target, g⟩ rest m within := by
  have started := (inWave.start here).1
  have recording := recording_sound.returns started.recorded reacts
  have discretion := discretion_sound.returns started.recorded.consistent reacts
  obtain ⟨_, within, journal, silent⟩ := discretion.returns started.draining
  have resumed := started.resume recording
  refine ⟨within, resumed, discretion.leads, ?_, silent, ?_⟩
  · exact resumed.generation.trans inWave.generation.symm
  · rw [journal, startCallback, journal_note, journal_emit]

section

variable {n : Notification} {rest : List SubscriptionId} {m : Kernel κ}
  {within span : List (Occurrence κ)} {tally : WaveTally}
  {result : Except Fault Unit × WaveTally}

/-- The entries from the announcement of the callback to its end. -/
def headSpan (k : Kernel κ) (n : Notification) (within : List (Occurrence κ))
    (fault : Option Fault) : List (Occurrence κ) :=
  callbackSpan (k.announcement (.notified n.subscription n.generation)) n within fault

/-- What has been written when the end of the callback is noted. -/
theorem Called.written (called : k.Called n rest m within) (fault : Option Fault) :
    (m.note (.finished n fault)).journal.toList =
      k.journal.toList ++ k.headSpan n within fault := by
  rw [journal_note, called.journal]
  simp [headSpan, callbackSpan]

/-- A callback has succeeded and the rest of the wave is delivered. -/
theorem Called.succeeded (called : k.Called n rest m within)
    (delivery : (m.finishCallback n (.ok ())).Delivery rest
      { tally with callbacks := tally.callbacks + 1 } span result k') :
    k.Delivery (n.subscription :: rest) tally (k.headSpan n within none ++ [] ++ span) result
      k' := by
  have announced := (k.silent_announcement (.notified n.subscription n.generation)).idle
  refine delivery.callback announced called.silent.idle idle_nil ?_ called.settings
    called.generation rfl fun _ => rfl
  rw [List.append_nil]
  exact called.written none

/-- A callback has failed, this was reported, and the rest of the wave is delivered. -/
theorem Called.failed {fault : Fault} (called : k.Called n rest m within)
    (policy : k.settings.onFailure = .log)
    (delivery : ((m.finishCallback n (.error fault)).log
      (.callbackFailed n.subscription n.generation fault)).Delivery rest
        { tally with callbacks := tally.callbacks + 1, failures := tally.failures + 1 }
        span result k') :
    k.Delivery (n.subscription :: rest) tally (k.headSpan n within (some fault) ++
      [.logged (.callbackFailed n.subscription n.generation fault)] ++ span) result k' := by
  have announced := (k.silent_announcement (.notified n.subscription n.generation)).idle
  refine delivery.callback announced called.silent.idle ⟨rfl, rfl, rfl, rfl, rfl⟩ ?_
    called.settings called.generation rfl ?_
  · have written := called.written (some fault)
    rw [headSpan] at written
    rw [← List.append_assoc, ← written]
    exact journal_note _ _
  · intro abort
    rw [policy] at abort
    cases abort

/-- A callback has failed and aborts the drain. -/
theorem Called.aborted {fault : Fault} (called : k.Called n rest m within)
    (policy : k.settings.onFailure = .abort) : ∃ span,
    k.Delivery (n.subscription :: rest) tally span (.error fault, { tally with
      callbacks := tally.callbacks + 1
      failures := tally.failures + 1 })
      ((m.finishCallback n (.error fault)).abortDrain n fault) := by
  have announced := (k.silent_announcement (.notified n.subscription n.generation)).idle
  let discarded := (m.finishCallback n (.error fault)).schedule.pending.size
  refine ⟨k.headSpan n within (some fault) ++
    [.logged (.callbackAborted n.subscription n.generation discarded fault)], ?_⟩
  refine .abort announced called.silent.idle ⟨rfl, rfl, rfl, rfl, rfl⟩ ?_ called.settings
    called.generation policy
  have written := called.written (some fault)
  rw [headSpan] at written
  rw [← List.append_assoc, ← written]
  exact journal_note _ _

end

/-- What the delivery of a wave has come to when it has ended. -/
theorem delivery_of_steps {wave : List SubscriptionId} {tally : WaveTally}
    {result : Except Fault Unit × WaveTally} (inWave : k.InWave g wave)
    (steps : Steps (k.deliver g wave tally) (.done result k')) :
    ∃ span, k.Delivery wave tally span result k' := by
  induction wave generalizing tally k with
  | nil =>
    obtain ⟨rfl, rfl⟩ := steps.of_done
    exact ⟨[], by simp, rfl, rfl, rfl, rfl, rfl, rfl, fun _ => ⟨rfl, fun _ => rfl⟩, by simp⟩
  | cons id rest ih =>
    cases here : k.edges.callback? id with
    | none =>
      simp only [deliver, here] at steps
      obtain ⟨span, delivery⟩ := ih (inWave.stale here) steps
      refine ⟨[.logged (.stale id g)] ++ span, ?_⟩
      exact delivery.cons (journal_note k _) rfl rfl rfl rfl rfl rfl rfl fun _ => rfl
    | some entry =>
      obtain ⟨e, code⟩ := entry
      simp only [deliver, here] at steps
      obtain ⟨r, m, reacts, steps⟩ := steps.of_react
      obtain ⟨within, called⟩ := inWave.called here reacts
      have finished := (called.inWave.finish ⟨id, e.source, e.target, g⟩ r).1
      have same : (m.finishCallback ⟨id, e.source, e.target, g⟩ r).settings = k.settings :=
        called.settings
      cases r with
      | ok u =>
        obtain ⟨span, delivery⟩ := ih finished steps
        exact ⟨_, called.succeeded delivery⟩
      | error fault =>
        cases policy : k.settings.onFailure with
        | log =>
          simp only [same, policy] at steps
          obtain ⟨span, delivery⟩ := ih (finished.failed fault) steps
          exact ⟨_, called.failed policy delivery⟩
        | abort =>
          simp only [same, policy] at steps
          obtain ⟨rfl, rfl⟩ := steps.of_done
          exact called.aborted policy

end Kernel

end ReactiveKernel
