import ReactiveKernel.Proofs.Ledger.Order

/-!
# The course of a wave

From the moment when a wave is taken until the next boundary, the turns that were taken and those
that are still to come make up the wave, in its order, unless the drain was aborted; then the last
turn is that of the callback that aborted it.
-/

namespace ReactiveKernel

variable {κ : Type}

/-- The subscriptions whose turns were taken. -/
def turns (span : List (Occurrence κ)) : List SubscriptionId := span.filterMap Occurrence.turn?

/-- The subscriptions whose callbacks were started. -/
def starts (span : List (Occurrence κ)) : List SubscriptionId := span.filterMap Occurrence.start?

/-- The last turn was that of a subscription whose callback was started. -/
def Ran (span : List (Occurrence κ)) (id : SubscriptionId) : Prop :=
  id ∈ starts span ∧ ∃ ahead, turns span = ahead ++ [id]

/-- The drain was aborted by the callback whose turn was the last one. -/
def Aborted (g : Nat) (span : List (Occurrence κ)) : Prop :=
  ∃ id discarded fault, .logged (.callbackAborted id g discarded fault) ∈ span ∧ Ran span id

/-- How far a wave has come. -/
structure Course (g : Nat) (wave : List SubscriptionId) (span : List (Occurrence κ))
    (l : Ledger) : Prop where
  /-- No other wave was taken. -/
  generation : l.generation = g
  /-- The drain is still running. -/
  draining : l.draining = true
  /-- Turns are taken in the order of the wave. -/
  order : turns span <+: wave
  /-- All turns that were not taken are still to come, or the drain was aborted. -/
  progress : turns span ++ l.rest = wave ∨ l.rest = [] ∧ Aborted g span
  /-- The ledger knows the last turn if its callback was started. -/
  turn : ∀ id, l.turn = some id → Ran span id

@[simp] theorem turns_snoc (span : List (Occurrence κ)) (o : Occurrence κ) :
    turns (span ++ [o]) = turns span ++ o.turn?.toList := by
  cases h : o.turn? <;> simp [turns, h]

@[simp] theorem starts_snoc (span : List (Occurrence κ)) (o : Occurrence κ) :
    starts (span ++ [o]) = starts span ++ o.start?.toList := by
  cases h : o.start? <;> simp [starts, h]

namespace Course

variable {g : Nat} {wave : List SubscriptionId} {span entries : List (Occurrence κ)} {l : Ledger}
  {o : Occurrence κ}

/-- The last turn is still the last one after an entry that takes none. -/
theorem ran_snoc {id : SubscriptionId} (h : Ran span id) (none : o.turn? = none) :
    Ran (span ++ [o]) id := by
  obtain ⟨started, ahead, taken⟩ := h
  refine ⟨by simp [started], ahead, ?_⟩
  rw [turns_snoc, none, taken]
  simp

/-- Entries that take no turn and leave the clock alone. -/
theorem still (course : Course g wave span l) {l' : Ledger} (none : o.turn? = none)
    (generation : l'.generation = l.generation) (draining : l'.draining = l.draining)
    (rest : l'.rest = l.rest) (turn : l'.turn = l.turn) : Course g wave (span ++ [o]) l' := by
  have same : turns (span ++ [o]) = turns span := by simp [none]
  refine ⟨generation.trans course.generation, draining.trans course.draining, ?_, ?_, ?_⟩
  · rw [same]
    exact course.order
  · rw [same, rest]
    refine course.progress.imp_right fun ⟨empty, id, n, fault, entry, ran⟩ => ?_
    exact ⟨empty, id, n, fault, by simp [entry], ran_snoc ran none⟩
  · intro id h
    exact ran_snoc (course.turn id (turn ▸ h)) none

/-- What is left when a turn is taken. -/
theorem taken (course : Course g wave span l) {id : SubscriptionId} {rest : List SubscriptionId}
    (next : l.rest = id :: rest) : turns span ++ id :: rest = wave := by
  rcases course.progress with running | ⟨empty, _⟩
  · exact next ▸ running
  · rw [next] at empty
    cases empty

/-- A wave is on its course after an announcement. -/
theorem announced (course : Course g wave span (.of entries)) {e : TraceEvent}
    (fits : Fits entries (.announced e))
    (inside : (.announced e : Occurrence κ).isBoundary = false) :
    Course g wave (span ++ [.announced e])
      ((Ledger.of entries).record (.announced e : Occurrence κ)) := by
  cases e with
  | drainStarted generation pending =>
    have idle : (Ledger.of entries).draining = false := fits
    rw [course.draining] at idle
    cases idle
  | drainFinished generation waves overrun => cases inside
  | _ => exact course.still rfl rfl rfl rfl rfl

/-- A wave is on its course after a log entry. -/
theorem logged (course : Course g wave span (.of entries)) {e : LogEvent}
    (fits : Fits entries (.logged e)) :
    Course g wave (span ++ [.logged e])
      ((Ledger.of entries).record (.logged e : Occurrence κ)) := by
  cases e with
  | stale id generation =>
    obtain ⟨_, ⟨rest, next⟩, _⟩ := fits
    have whole := course.taken next
    have more : turns (span ++ [.logged (.stale id generation)]) = turns span ++ [id] := by
      simp [Occurrence.turn?]
    refine ⟨course.generation, course.draining, ?_, .inl ?_, ?_⟩
    · rw [more]
      exact ⟨rest, by simp [whole]⟩
    · rw [more]
      simp [Ledger.record, next, whole]
    · intro a h
      cases h
  | callbackAborted id generation discarded fault =>
    obtain ⟨rfl, turn⟩ := fits
    have same : turns (span ++ [.logged (.callbackAborted id (Ledger.of entries).generation
        discarded fault)]) = turns span := by
      simp [Occurrence.turn?]
    have ran := course.turn id turn
    refine ⟨course.generation, course.draining, same ▸ course.order, .inr ⟨rfl, ?_⟩, ?_⟩
    · refine ⟨id, discarded, fault, ?_, ran_snoc ran rfl⟩
      rw [course.generation]
      simp
    · intro a h
      exact ran_snoc (course.turn a h) rfl
  | _ => exact course.still rfl rfl rfl rfl rfl

/-- A wave is on its course after a callback has started. -/
theorem started (course : Course g wave span (.of entries)) {n : Notification}
    (fits : Fits entries (.started n)) :
    Course g wave (span ++ [.started n])
      ((Ledger.of entries).record (.started n : Occurrence κ)) := by
  obtain ⟨_, ⟨rest, next⟩, _⟩ := fits
  have whole := course.taken next
  have more : turns (span ++ [.started n]) = turns span ++ [n.subscription] := by
    simp [Occurrence.turn?]
  refine ⟨course.generation, course.draining, ?_, .inl ?_, ?_⟩
  · rw [more]
    exact ⟨rest, by simp [whole]⟩
  · rw [more]
    simp [Ledger.record, next, whole]
  · intro a h
    cases h
    exact ⟨by simp [Occurrence.start?], turns span, more⟩

/-- One more entry. -/
theorem snoc (course : Course g wave span (.of entries)) (fits : Fits entries o)
    (inside : o.isBoundary = false) : Course g wave (span ++ [o]) (.of (entries ++ [o])) := by
  rw [Ledger.of_snoc]
  cases o with
  | announced e => exact course.announced fits inside
  | logged e => exact course.logged fits
  | started n => exact course.started fits
  | waveTaken g' wave' => cases inside
  | _ => exact course.still rfl rfl rfl rfl rfl

end Course

variable {pre span post : List (Occurrence κ)} {g : Nat} {wave : List SubscriptionId}

/-- A wave is on its course until the next boundary. -/
theorem Orderly.course (h : Orderly (pre ++ .waveTaken g wave :: span))
    (inside : ∀ b ∈ span, b.isBoundary = false) :
    Course g wave span (.of (pre ++ .waveTaken g wave :: span)) := by
  induction span using List.reverseRecOn with
  | nil =>
    obtain ⟨draining, _⟩ := h.fits
    rw [Ledger.of_snoc]
    refine ⟨rfl, draining, List.nil_prefix, .inl rfl, ?_⟩
    intro id none
    cases none
  | append_singleton span o ih =>
    have split : pre ++ .waveTaken g wave :: (span ++ [o]) =
        (pre ++ .waveTaken g wave :: span) ++ [o] := by simp
    rw [split] at h ⊢
    obtain ⟨orderly, fits⟩ := Orderly.snoc_iff.mp h
    have before := ih orderly fun b hb => inside b (by simp [hb])
    exact before.snoc fits (inside o (by simp))

/-- At a boundary all turns were taken, or the drain was aborted. -/
theorem Orderly.course_ended (h : Orderly (pre ++ .waveTaken g wave :: span ++ post))
    (inside : ∀ b ∈ span, b.isBoundary = false) {b : Occurrence κ} (next : post.head? = some b)
    (boundary : b.isBoundary = true) : turns span = wave ∨ Aborted g span := by
  have course := h.of_append.course inside
  obtain ⟨rest, rfl⟩ : ∃ rest, post = b :: rest := by
    cases post with
    | nil => cases next
    | cons a rest =>
      cases next
      exact ⟨rest, rfl⟩
  have fits := h.fits
  have empty : (Ledger.of (pre ++ .waveTaken g wave :: span)).rest = [] := by
    cases b with
    | waveTaken g' wave' => exact fits.2.1
    | announced e =>
      cases e with
      | drainFinished generation waves overrun => exact fits.2
      | _ => cases boundary
    | _ => cases boundary
  rcases course.progress with running | ⟨_, aborted⟩
  · rw [empty, List.append_nil] at running
    exact .inl running
  · exact .inr aborted

end ReactiveKernel
