import ReactiveKernel.Proofs.Effect.Changes
import ReactiveKernel.Proofs.Ledger.Course
import ReactiveKernel.Proofs.Ledger.Drain

/-!
# No notification is lost and none is spurious

A wave is exactly what was called for since the boundary before it. While it lasts, the callbacks of
its members start one after another, each once, except those of members that are not registered any
more when their turn comes, and of those that are dropped because a callback aborted the drain. No
other callbacks start.
-/

namespace ReactiveKernel

variable {κ : Type}

/-- The subscription that is skipped since it is gone. -/
def Occurrence.skip? : Occurrence κ → Option SubscriptionId
  | .logged (.stale id _) => some id
  | _ => none

/-- The wave that is taken, with its generation. -/
def Occurrence.wave? : Occurrence κ → Option (Nat × List SubscriptionId)
  | .waveTaken generation wave => some (generation, wave)
  | _ => none

/-- The subscriptions that were skipped. -/
def skips (span : List (Occurrence κ)) : List SubscriptionId := span.filterMap Occurrence.skip?

/-- There is no boundary among some entries. -/
def Unbroken (span : List (Occurrence κ)) : Prop := ∀ b ∈ span, b.isBoundary = false

/-- The turn of a subscription came while it was registered. -/
def Present (before span : List (Occurrence κ)) (id : SubscriptionId) : Prop :=
  ∃ ahead o behind, span = ahead ++ o :: behind ∧ o.turn? = some id ∧
    ∃ e, (Ledger.of (before ++ ahead)).registered id = some e

/-- A member of a wave whose turn did not come since a callback aborted the drain. -/
def Dropped (g : Nat) (wave : List SubscriptionId) (span : List (Occurrence κ))
    (id : SubscriptionId) : Prop :=
  id ∈ wave ∧ id ∉ turns span ∧ Aborted g span

/-- A wave notifies those who were due and nobody else. -/
structure Notifies (before : List (Occurrence κ)) (g : Nat) (wave : List SubscriptionId)
    (after : List (Occurrence κ)) : Prop where
  /-- The wave opens the next generation. -/
  generation : g = (Ledger.of before).generation + 1
  /-- Its members are those who were due. -/
  due : ∀ id, id ∈ wave ↔ Due before id
  /-- It is in ascending order. -/
  ascending : wave.Pairwise fun a b => a.raw < b.raw
  /-- Turns are taken in this order. -/
  order : ∀ span rest, after = span ++ rest → Unbroken span → turns span <+: wave
  /-- A callback starts at most once, and it does if its subscription is there at its turn. -/
  once : ∀ span rest, after = span ++ rest → Unbroken span → ∀ id,
    (starts span).count id ≤ 1 ∧
      ((starts span).count id = 1 ↔ Present (before ++ [.waveTaken g wave]) span id)
  /-- Nobody is forgotten when the next boundary comes. -/
  handled : ∀ span b rest, after = span ++ b :: rest → Unbroken span → b.isBoundary = true →
    ∀ id, id ∈ wave ↔ id ∈ starts span ∨ id ∈ skips span ∨ Dropped g wave span id
  /-- Until then the drain is running. -/
  running : Unbroken after →
    (Ledger.of (before ++ .waveTaken g wave :: after)).draining = true

/-- A notification belongs to the wave that is on its course after some entries: its subscription is
a member of the wave, has not had its turn, and is registered with these ends. -/
def Belongs (before : List (Occurrence κ)) (n : Notification) : Prop :=
  (∃ earlier wave span, before = earlier ++ .waveTaken n.generation wave :: span ∧ Unbroken span ∧
    n.subscription ∈ wave ∧ n.subscription ∉ turns span) ∧
  ∃ e, (Ledger.of before).registered n.subscription = some e ∧ n.source = e.source ∧
    n.target = e.target

section

variable {before span after : List (Occurrence κ)} {g : Nat} {wave : List SubscriptionId}
  {id : SubscriptionId} {o : Occurrence κ}

/-- A turn is taken by a start or by a skip. -/
theorem turn?_eq_some : o.turn? = some id ↔ o.start? = some id ∨ o.skip? = some id := by
  cases o with
  | logged e => cases e <;> simp [Occurrence.turn?, Occurrence.start?, Occurrence.skip?]
  | _ => simp [Occurrence.turn?, Occurrence.start?, Occurrence.skip?]

/-- Whoever has had a turn was started or skipped. -/
theorem mem_turns : id ∈ turns span ↔ id ∈ starts span ∨ id ∈ skips span := by
  simp only [turns, starts, skips, List.mem_filterMap, turn?_eq_some, ← exists_or, and_or_left]

/-- Whoever is started has taken a turn. -/
theorem starts_sublist_turns (span : List (Occurrence κ)) : (starts span).Sublist (turns span) := by
  induction span using List.reverseRecOn with
  | nil => exact List.Sublist.refl _
  | append_singleton span o ih =>
    rw [starts_snoc, turns_snoc]
    refine ih.append ?_
    cases started : o.start? with
    | none => exact List.nil_sublist _
    | some id =>
      rw [turn?_eq_some.mpr (.inl started)]

/-- Turns are taken in the order of the wave. -/
theorem Orderly.turns_in_order (h : Orderly (before ++ .waveTaken g wave :: span))
    (unbroken : Unbroken span) : turns span <+: wave :=
  (h.course unbroken).order

/-- No callback is started twice in a wave. -/
theorem Orderly.count_starts (h : Orderly (before ++ .waveTaken g wave :: span))
    (unbroken : Unbroken span) (id : SubscriptionId) : (starts span).count id ≤ 1 := by
  obtain ⟨_, _, _, ascending, _⟩ := h.fits
  have nodup : wave.Nodup := ascending.imp fun less same => by
    rw [same] at less
    exact Nat.lt_irrefl _ less
  have once := (h.turns_in_order unbroken).sublist.nodup nodup
  exact List.nodup_iff_count_le_one.mp ((starts_sublist_turns span).nodup once) id

/-- A callback is started exactly if its subscription is registered when its turn comes. -/
theorem Orderly.mem_starts (h : Orderly (before ++ .waveTaken g wave :: span)) :
    id ∈ starts span ↔ Present (before ++ [.waveTaken g wave]) span id := by
  have split (ahead behind : List (Occurrence κ)) (o : Occurrence κ) :
      before ++ .waveTaken g wave :: (ahead ++ o :: behind) =
        (before ++ [.waveTaken g wave] ++ ahead) ++ o :: behind := by simp
  constructor
  · intro started
    obtain ⟨o, ho, start⟩ := List.mem_filterMap.mp started
    obtain ⟨ahead, behind, rfl⟩ := List.append_of_mem ho
    rw [split] at h
    refine ⟨ahead, o, behind, rfl, turn?_eq_some.mpr (.inl start), ?_⟩
    cases o with
    | started n =>
      cases start
      obtain ⟨_, _, e, registered, _⟩ := h.fits
      exact ⟨e, registered⟩
    | _ => cases start
  · rintro ⟨ahead, o, behind, rfl, turn, e, registered⟩
    rw [split] at h
    rcases turn?_eq_some.mp turn with start | skip
    · exact List.mem_filterMap.mpr ⟨o, by simp, start⟩
    · cases o with
      | logged entry =>
        cases entry with
        | stale i n =>
          cases skip
          obtain ⟨_, _, gone⟩ := h.fits
          rw [gone] at registered
          cases registered
        | _ => cases skip
      | _ => cases skip

/-- A wave in an orderly history notifies those who were due and nobody else. -/
theorem Orderly.notifies (h : Orderly (before ++ .waveTaken g wave :: after)) :
    Notifies before g wave after := by
  obtain ⟨_, _, generation, ascending, due⟩ := h.fits
  have until_then {span rest : List (Occurrence κ)} (split : after = span ++ rest) :
      Orderly (before ++ .waveTaken g wave :: span) := by
    rw [split, ← List.cons_append, ← List.append_assoc] at h
    exact h.of_append
  refine ⟨generation, due, ascending, ?_, ?_, ?_, ?_⟩
  · intro span rest split unbroken
    exact (until_then split).turns_in_order unbroken
  · intro span rest split unbroken id
    have at_most := (until_then split).count_starts unbroken id
    refine ⟨at_most, ?_⟩
    rw [← (until_then split).mem_starts, ← List.count_pos_iff]
    omega
  · intro span b rest split unbroken boundary id
    have order := (until_then split).turns_in_order unbroken
    have ended : turns span = wave ∨ Aborted g span := by
      rw [split, ← List.cons_append, ← List.append_assoc] at h
      exact h.course_ended unbroken rfl boundary
    rw [← or_assoc, ← mem_turns]
    constructor
    · intro member
      by_cases taken : id ∈ turns span
      · exact .inl taken
      · refine .inr ⟨member, taken, ended.resolve_left ?_⟩
        intro all
        exact taken (all ▸ member)
    · rintro (taken | ⟨member, _⟩)
      · exact order.mem taken
      · exact member
  · intro unbroken
    exact (h.course unbroken).draining

/-- Only a wave brings turns that are to come. -/
theorem Ledger.record_rest {l : Ledger} (inside : o.isBoundary = false) (empty : l.rest = []) :
    (l.record o).rest = [] := by
  cases o with
  | announced e => cases e <;> exact empty
  | logged e => cases e <;> simp [record, empty]
  | waveTaken g wave => cases inside
  | started n => simp [record, empty]
  | _ => exact empty

/-- As long as turns are to come, a wave is on its course. -/
theorem Orderly.exists_wave {entries : List (Occurrence κ)} (h : Orderly entries)
    (more : (Ledger.of entries).rest ≠ []) : ∃ before g wave span,
      entries = before ++ .waveTaken g wave :: span ∧ Unbroken span := by
  induction h with
  | nil => exact absurd rfl more
  | @snoc entries o orderly fits ih =>
    rw [Ledger.of_snoc] at more
    cases boundary : o.isBoundary with
    | true =>
      cases o with
      | waveTaken g wave => exact ⟨entries, g, wave, [], rfl, by simp [Unbroken]⟩
      | announced e =>
        cases e with
        | drainFinished g n overrun => exact absurd fits.2 more
        | _ => cases boundary
      | _ => cases boundary
    | false =>
      obtain ⟨before, g, wave, span, rfl, unbroken⟩ :=
        ih fun empty => more (Ledger.record_rest boundary empty)
      refine ⟨before, g, wave, span ++ [o], by simp, ?_⟩
      intro b hb
      rcases List.mem_append.mp hb with hb | hb
      · exact unbroken b hb
      · rw [List.mem_singleton.mp hb]
        exact boundary

/-- A callback starts within a wave that its subscription belongs to, and it starts at its turn. -/
theorem Orderly.started_in_wave {n : Notification} (h : Orderly (before ++ .started n :: after)) :
    Belongs before n := by
  obtain ⟨now, ⟨rest, next⟩, registered⟩ := h.fits
  refine ⟨?_, registered⟩
  have orderly := h.of_append
  obtain ⟨earlier, g, wave, span, rfl, unbroken⟩ := orderly.exists_wave (by simp [next])
  have course := orderly.course unbroken
  have whole := course.taken next
  obtain ⟨_, _, _, ascending, _⟩ := orderly.fits
  refine ⟨earlier, wave, span, ?_, unbroken, by simp [← whole], ?_⟩
  · rw [now, course.generation]
  · intro again
    rw [← whole, List.pairwise_append] at ascending
    exact Nat.lt_irrefl _ (ascending.2.2 _ again _ List.mem_cons_self)

end

namespace Kernel

variable {k : Kernel κ}

/-- In every run, whatever host code does, the history tells at every moment what is registered, who
owns what and when each node changed last, and tells all changes that commands make. What is
pending is what the history calls for, every wave notifies exactly those who were due, and no
callback starts outside of the wave that its subscription belongs to. -/
theorem waves_exact (h : k.Reachable) :
    (∀ k₀ : Kernel κ, k₀.Precedes k → k₀.history <+: k.history ∧
      (Ledger.of k₀.history).Agrees k₀.toState) ∧
    (∀ (order : EdgeOrder κ) (c : Command κ),
      k.Adds (c.change? (c.perform order k).1) (c.perform order k).2) ∧
    (∀ id, id ∈ k.schedule.pending ↔ Due k.history id) ∧
    (∀ before g wave after, k.history = before ++ .waveTaken g wave :: after →
      Notifies before g wave after) ∧
    ∀ before n after, k.history = before ++ .started n :: after → Belongs before n := by
  refine ⟨?_, ?_, h.recorded.due, ?_, ?_⟩
  · intro k₀ precedes
    exact ⟨precedes.history_grows, precedes.reachable_first.recorded.agrees⟩
  · intro order c
    exact perform_adds h.consistent order c
  · intro before g wave after split
    exact (split ▸ h.recorded.orderly).notifies
  · intro before n after split
    exact (split ▸ h.recorded.orderly).started_in_wave

/-- A host whose code drops the second subscription, or does nothing. -/
def relay : Host Bool where
  behave drops _ :=
    if drops then .command (.unsubscribe ⟨1⟩) fun _ => .pure (.ok ()) else .pure (.ok ())

/-- A new datum with two new subscriptions is changed, and then there is a drain. -/
def relayScript : Program Bool (Except Fault Unit) :=
  .command (.createDatum "Cell" [] none) fun _ =>
  .command (.subscribe (.datum ⟨0⟩) (.datum ⟨0⟩) .structural true) fun _ =>
  .command (.subscribe (.datum ⟨0⟩) (.datum ⟨0⟩) .everything false) fun _ =>
  .command (.set (.datum ⟨0⟩) "value" (.bool true)) fun _ =>
  .call .drain fun _ => .pure (.ok ())

/-- The kernel after the drain. -/
def relayed : Kernel Bool :=
  ((relay.execute 2 relayScript (Kernel.create .standard .empty)).map (·.2)).getD
    (Kernel.create .standard .empty)

theorem relayed_reachable : relayed.Reachable := by
  have returns : (relay.execute 2 relayScript (Kernel.create .standard .empty)).isSome = true := by
    decide
  obtain ⟨⟨r, k⟩, run⟩ := Option.isSome_iff_exists.mp returns
  have same : relayed = k := by
    rw [relayed, run]
    rfl
  rw [same]
  exact (relay.precedes_of_execute run).reachable

/-- Both subscriptions were due, once each; the first callback was started and dropped the second
subscription, which was skipped. -/
theorem waves_exact_relayed :
    relayed.Reachable ∧
    (∃ before after, relayed.history = before ++ .waveTaken 1 [⟨0⟩, ⟨1⟩] :: after ∧
      Due before ⟨0⟩ ∧ Due before ⟨1⟩) ∧
    starts relayed.history = [⟨0⟩] ∧ skips relayed.history = [⟨1⟩] := by
  obtain ⟨_, _, _, notifies, _⟩ := waves_exact relayed_reachable
  refine ⟨relayed_reachable, ?_, by decide, by decide⟩
  have taken : (1, [⟨0⟩, ⟨1⟩]) ∈ relayed.history.filterMap Occurrence.wave? := by decide
  obtain ⟨o, ho, same⟩ := List.mem_filterMap.mp taken
  cases o with
  | waveTaken g wave =>
    cases same
    obtain ⟨before, after, split⟩ := List.append_of_mem ho
    have exact := notifies before 1 [⟨0⟩, ⟨1⟩] after split
    exact ⟨before, after, split, (exact.due ⟨0⟩).mp (by simp), (exact.due ⟨1⟩).mp (by simp)⟩
  | _ => cases same

end Kernel

end ReactiveKernel
