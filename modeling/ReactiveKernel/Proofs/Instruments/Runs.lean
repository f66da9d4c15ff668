import ReactiveKernel.Proofs.Instruments.Requests

/-!
# Runs that use the instruments differently

Two activities match when they are at the same point, apart from uses of the instruments that are
still to come, and go on to match. A step of the first one is matched by some steps of the second:
by none when the first one uses the instruments, and by several when the second one does. So a run
is matched by one that makes the same decisions.
-/

namespace ReactiveKernel

variable {κ α β : Type}

namespace Choice

/-- The same decision, but for the use of the instruments by host code that starts. -/
inductive SameRequests : Choice κ → Choice κ → Prop
  /-- Host code starts. -/
  | start {p p' : Program κ (Except Fault Unit)} : p.SameRequests p' →
    SameRequests (.start p) (.start p')
  /-- Sets of subscriptions are walked in the same order. -/
  | walk (order : EdgeOrder κ) : SameRequests (.walk order) (.walk order)

/-- Whether there is something to decide. -/
def isOpen : Choice κ → Bool
  | .proceed => false
  | _ => true

/-- The decisions among some choices. -/
def decisions (cs : List (Choice κ)) : List (Choice κ) := cs.filter isOpen

/-- The decisions among choices in a row are those of the first part and then those of the second
part. -/
theorem decisions_append (cs ds : List (Choice κ)) :
    decisions (cs ++ ds) = decisions cs ++ decisions ds :=
  List.filter_append ..

/-- The first of some choices comes first among the decisions. -/
theorem decisions_cons (c : Choice κ) (cs : List (Choice κ)) :
    decisions (c :: cs) = decisions [c] ++ decisions cs :=
  decisions_append [c] cs

end Choice

namespace Activity

open Choice

/-- Two activities at the same point with the same state, now and after every answer. Host code that
is in control of them has the same requests. -/
inductive Matches : Activity κ α → Activity κ α → Prop
  /-- Both have ended, with the same result. -/
  | done (x : α) {k k' : Kernel κ} : (Likeness.bare κ).Twins k k' → Matches (.done x k) (.done x k')
  /-- The same host code is due. -/
  | react (code : κ) (occasion : Occasion) {k k' : Kernel κ}
    {next next' : Except Fault Unit → Kernel κ → Activity κ α} : (Likeness.bare κ).Twins k k' →
    (∀ r m m', (Likeness.bare κ).Twins m m' → Matches (next r m) (next' r m')) →
    Matches (.react code occasion k next) (.react code occasion k' next')
  /-- Host code with the same requests is in control. -/
  | host {p p' : Program κ (Except Fault Unit)} {k k' : Kernel κ}
    {next next' : Except Fault Unit → Kernel κ → Activity κ α} : p.SameRequests p' →
    (Likeness.bare κ).Twins k k' →
    (∀ r m m', (Likeness.bare κ).Twins m m' → Matches (next r m) (next' r m')) →
    Matches (.host p k next) (.host p' k' next')
  /-- The same call is to be made. -/
  | call (c : Call) {k k' : Kernel κ}
    {next next' : Except Fault c.Reply → Kernel κ → Activity κ α} : (Likeness.bare κ).Twins k k' →
    (∀ r m m', (Likeness.bare κ).Twins m m' → Matches (next r m) (next' r m')) →
    Matches (.call c k next) (.call c k' next')

namespace Matches

variable {a a' b : Activity κ α}

/-- Activities with the same requests are those of twins. -/
theorem twins (h : a.Matches a') : (Likeness.bare κ).Twins a.kernel a'.kernel := by
  cases h <;> assumption

/-- Activities in a row have the same requests if either of them has. -/
theorem bind {f f' : α → Kernel κ → Activity κ β} (h : a.Matches a')
    (rest : ∀ x k k', (Likeness.bare κ).Twins k k' → (f x k).Matches (f' x k')) :
    (a.bind f).Matches (a'.bind f') := by
  induction h with
  | done x twins => exact rest x _ _ twins
  | react code occasion twins _ ih => exact .react code occasion twins ih
  | host same twins _ ih => exact .host same twins ih
  | call c twins _ ih => exact .call c twins ih

/-- Operations in lockstep match. -/
theorem of_paired (h : (Likeness.bare κ).Paired a a') : a.Matches a' := by
  induction h with
  | done x twins => exact .done x twins
  | react code occasion twins _ ih => exact .react code occasion twins ih
  | host p blind twins _ ih => exact .host (Likeness.sameRequests_of_blind blind) twins ih
  | call c twins _ ih => exact .call c twins ih

/-- The same call makes the kernels do the same. -/
theorem activity (order : EdgeOrder κ) (c : Call) {k k' : Kernel κ}
    (twins : (Likeness.bare κ).Twins k k') :
    (c.activity order k).Matches (c.activity order k') :=
  of_paired (Likeness.bare_sound.paired_activity (fun _ _ _ => rfl) c twins)

/-- A step of host code is matched by some steps of host code with the same requests. -/
theorem follows_host {p p' : Program κ (Except Fault Unit)} (same : p.SameRequests p')
    {k k' : Kernel κ} {next next' : Except Fault Unit → Kernel κ → Activity κ α}
    (twins : (Likeness.bare κ).Twins k k')
    (rest : ∀ r m m', (Likeness.bare κ).Twins m m' → Matches (next r m) (next' r m'))
    {c : Choice κ} (step : Takes c (.host p k next) b) {es : List (Choice κ)}
    (alike : List.Forall₂ SameRequests (decisions [c]) es) :
    ∃ cs' b', decisions cs' = es ∧ Follows cs' (.host p' k' next') b' ∧ b.Matches b' := by
  induction same generalizing k k' with
  | pure r =>
    cases step
    cases alike
    exact ⟨[.proceed], _, rfl, .step (.finish r k' next') (.refl _), rest r k k' twins⟩
  | @inspect f f' later _ =>
    cases step
    cases alike
    have goes : (f k.toState).SameRequests (f' k'.toState) := twins.state ▸ later k.toState
    exact ⟨[.proceed], _, rfl, .step (.inspect f' k' next') (.refl _), .host goes twins rest⟩
  | @command d f f' later _ =>
    cases step with
    | command order =>
      obtain ⟨answer, back⟩ := twins.bare_perform order d
      obtain - | ⟨⟨⟩, ⟨⟩⟩ := alike
      refine ⟨[.walk order], _, rfl, .step (.command order d f' k' next') (.refl _), ?_⟩
      exact .host (answer ▸ later _) back rest
  | @call d f f' later _ =>
    cases step with
    | request order =>
      obtain - | ⟨⟨⟩, ⟨⟩⟩ := alike
      refine ⟨[.walk order], _, rfl, .step (.request order d f' k' next') (.refl _), ?_⟩
      exact (activity order d twins).bind fun r m m' back => .host (later r) back rest
  | left q later _ =>
    cases step
    cases alike
    exact ⟨[], _, rfl, .refl _, .host (later _) (twins.probe_left q) rest⟩
  | @right q f' p later ih =>
    obtain ⟨cs', b', decided, run, matched⟩ := ih _ (twins.probe_right q) step
    exact ⟨.proceed :: cs', b', decided, .step (.probe q f' k' next') run, matched⟩

/-- A step is matched by some steps with the same decisions. -/
theorem follows_step (h : a.Matches a') {c : Choice κ} (step : Takes c a b)
    {es : List (Choice κ)} (alike : List.Forall₂ SameRequests (decisions [c]) es) :
    ∃ cs' b', decisions cs' = es ∧ Follows cs' a' b' ∧ b.Matches b' := by
  cases h with
  | done x twins => cases step
  | host same twins rest => exact follows_host same twins rest step alike
  | react code occasion twins rest =>
    cases step with
    | start _ _ _ _ p =>
      obtain - | ⟨⟨same⟩, ⟨⟩⟩ := alike
      exact ⟨[.start _], _, rfl, .step (.start code occasion _ _ _) (.refl _),
        .host same twins rest⟩
  | call c twins rest =>
    cases step with
    | call order =>
      obtain - | ⟨⟨⟩, ⟨⟩⟩ := alike
      exact ⟨[.walk order], _, rfl, .step (.call order c _ _) (.refl _),
        (activity order c twins).bind rest⟩

/-- A run is matched by one that makes the same decisions. -/
theorem follows (h : a.Matches a') {cs : List (Choice κ)} (run : Follows cs a b)
    {es : List (Choice κ)} (alike : List.Forall₂ SameRequests (decisions cs) es) :
    ∃ cs' b', decisions cs' = es ∧ Follows cs' a' b' ∧ b.Matches b' := by
  induction run generalizing a' es with
  | refl a =>
    cases alike
    exact ⟨[], a', rfl, .refl a', h⟩
  | @step c cs a b d first _ ih =>
    rw [decisions_cons] at alike
    have now := (List.forall₂_take_append es _ _ alike.flip).flip
    have later := (List.forall₂_drop_append es _ _ alike.flip).flip
    obtain ⟨cs₁, b₁, decided₁, run₁, matched₁⟩ := h.follows_step first now
    obtain ⟨cs₂, b₂, decided₂, run₂, matched₂⟩ := ih matched₁ later
    refine ⟨cs₁ ++ cs₂, b₂, ?_, run₁.trans run₂, matched₂⟩
    rw [decisions_append, decided₁, decided₂, List.take_append_drop]

end Matches

end Activity

end ReactiveKernel
