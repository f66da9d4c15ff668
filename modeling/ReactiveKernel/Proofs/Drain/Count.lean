import ReactiveKernel.Proofs.Effect.Murmurs
import ReactiveKernel.Proofs.Waves

/-!
# What the journal counts

The waves that were taken, the turns, starts and skips in them, and the callbacks that failed are
read off the entries that a drain has written. Entries that others than drains write as well do not
count.
-/

namespace ReactiveKernel

variable {κ : Type}

/-- The fault of the callback that an entry says has failed. -/
def Occurrence.failure? : Occurrence κ → Option Fault
  | .finished _ fault => fault
  | _ => none

/-- The waves that were taken, with their generations. -/
def taken (span : List (Occurrence κ)) : List (Nat × List SubscriptionId) :=
  span.filterMap Occurrence.wave?

/-- The faults of the callbacks that failed. -/
def failures (span : List (Occurrence κ)) : List Fault := span.filterMap Occurrence.failure?

section

variable (span more : List (Occurrence κ))

@[simp] theorem taken_append : taken (span ++ more) = taken span ++ taken more :=
  List.filterMap_append

@[simp] theorem failures_append : failures (span ++ more) = failures span ++ failures more :=
  List.filterMap_append

@[simp] theorem turns_append : turns (span ++ more) = turns span ++ turns more :=
  List.filterMap_append

@[simp] theorem starts_append : starts (span ++ more) = starts span ++ starts more :=
  List.filterMap_append

@[simp] theorem skips_append : skips (span ++ more) = skips span ++ skips more :=
  List.filterMap_append

end

/-- Entries that tell of no wave and of no callback. -/
structure Idle (span : List (Occurrence κ)) : Prop where
  /-- No wave was taken. -/
  taken : taken span = []
  /-- No turn was taken. -/
  turns : turns span = []
  /-- No callback was started. -/
  starts : starts span = []
  /-- No subscription was skipped. -/
  skips : skips span = []
  /-- No callback failed. -/
  failures : failures span = []

/-- Entries that drains do not write tell of no wave and of no callback. -/
theorem Silent.idle {span : List (Occurrence κ)} (h : Silent span) : Idle span := by
  refine ⟨h.filterMap ?_, h.filterMap ?_, h.filterMap ?_, h.filterMap ?_, h.filterMap ?_⟩
  all_goals
    intro o outside
    cases o with
    | logged e => cases e <;> first | rfl | cases outside
    | _ => first | rfl | cases outside

theorem idle_nil : Idle ([] : List (Occurrence κ)) := ⟨rfl, rfl, rfl, rfl, rfl⟩

/-- Idle entries in a row are idle. -/
theorem Idle.append {span more : List (Occurrence κ)} (h : Idle span) (h' : Idle more) :
    Idle (span ++ more) := by
  refine ⟨?_, ?_, ?_, ?_, ?_⟩
  · simp [h.taken, h'.taken]
  · simp [h.turns, h'.turns]
  · simp [h.starts, h'.starts]
  · simp [h.skips, h'.skips]
  · simp [h.failures, h'.failures]

/-- Idle entries around others do not count. -/
theorem counts_around {head tail : List (Occurrence κ)} (before : Idle head) (after : Idle tail)
    (span : List (Occurrence κ)) :
    taken (head ++ span ++ tail) = taken span ∧ turns (head ++ span ++ tail) = turns span ∧
      starts (head ++ span ++ tail) = starts span ∧ skips (head ++ span ++ tail) = skips span ∧
      failures (head ++ span ++ tail) = failures span := by
  refine ⟨?_, ?_, ?_, ?_, ?_⟩
  · simp [before.taken, after.taken]
  · simp [before.turns, after.turns]
  · simp [before.starts, after.starts]
  · simp [before.skips, after.skips]
  · simp [before.failures, after.failures]

/-- The entries of one callback, from its announcement to its end. -/
def callbackSpan (announced : List (Occurrence κ)) (n : Notification)
    (within : List (Occurrence κ)) (fault : Option Fault) : List (Occurrence κ) :=
  announced ++ [.started n] ++ within ++ [.finished n fault]

section

variable {announced within : List (Occurrence κ)} {n : Notification} {fault : Option Fault}

/-- No wave is taken while a callback runs. -/
theorem taken_callbackSpan (h : Idle announced) (h' : Idle within) :
    taken (callbackSpan announced n within fault) = [] := by
  simp only [callbackSpan, taken_append, h.taken, h'.taken]
  rfl

/-- The only turn that is taken while a callback runs is its own. -/
theorem turns_callbackSpan (h : Idle announced) (h' : Idle within) :
    turns (callbackSpan announced n within fault) = [n.subscription] := by
  simp only [callbackSpan, turns_append, h.turns, h'.turns]
  rfl

/-- The only callback that starts while a callback runs is that one. -/
theorem starts_callbackSpan (h : Idle announced) (h' : Idle within) :
    starts (callbackSpan announced n within fault) = [n.subscription] := by
  simp only [callbackSpan, starts_append, h.starts, h'.starts]
  rfl

/-- Nobody is skipped while a callback runs. -/
theorem skips_callbackSpan (h : Idle announced) (h' : Idle within) :
    skips (callbackSpan announced n within fault) = [] := by
  simp only [callbackSpan, skips_append, h.skips, h'.skips]
  rfl

/-- The only failure while a callback runs is its own, if it fails. -/
theorem failures_callbackSpan (h : Idle announced) (h' : Idle within) :
    failures (callbackSpan announced n within fault) = fault.toList := by
  simp only [callbackSpan, failures_append, h.failures, h'.failures]
  cases fault <;> rfl

end

/-- A callback failed, none before it did, and after it none was started. -/
def Aborts (span : List (Occurrence κ)) (fault : Fault) : Prop :=
  ∃ before n after, span = before ++ .finished n (some fault) :: after ∧ failures before = [] ∧
    starts after = []

/-- What comes before an abort may be anything but a failure. -/
theorem Aborts.prepend {head span : List (Occurrence κ)} {fault : Fault} (h : Aborts span fault)
    (unfailed : failures head = []) : Aborts (head ++ span) fault := by
  obtain ⟨before, n, after, rfl, none_before, none_after⟩ := h
  exact ⟨head ++ before, n, after, by simp, by simp [unfailed, none_before], none_after⟩

/-- What comes after an abort may be anything but a start. -/
theorem Aborts.append {span tail : List (Occurrence κ)} {fault : Fault} (h : Aborts span fault)
    (idle : starts tail = []) : Aborts (span ++ tail) fault := by
  obtain ⟨before, n, after, rfl, none_before, none_after⟩ := h
  exact ⟨before, n, after ++ tail, by simp, none_before, by simp [none_after, idle]⟩

/-- Turns are starts and skips. -/
theorem length_turns (span : List (Occurrence κ)) :
    (turns span).length = (starts span).length + (skips span).length := by
  induction span using List.reverseRecOn with
  | nil => rfl
  | append_singleton span o ih =>
    rw [turns_append, starts_append, skips_append, List.length_append, List.length_append,
      List.length_append, ih]
    have one : (turns [o]).length = (starts [o]).length + (skips [o]).length := by
      cases o with
      | logged e => cases e <;> rfl
      | _ => rfl
    omega

end ReactiveKernel
