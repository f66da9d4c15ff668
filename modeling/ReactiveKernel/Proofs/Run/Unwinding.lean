import ReactiveKernel.Proofs.Run.Step

/-!
# Runs that come to an end

A run that brings one activity after another to an end has brought the first one to an end before.
Steps are counted, since what a call did is found in fewer steps than the activity that made it.
-/

namespace ReactiveKernel

variable {κ α β : Type}

namespace Activity

/-- A run brings an activity to this end in so many steps. -/
inductive EndsIn : Nat → Activity κ α → α → Kernel κ → Prop
  /-- It has ended. -/
  | done (x : α) (k : Kernel κ) : EndsIn 0 (.done x k) x k
  /-- A step, and then further ones. -/
  | step {n : Nat} {a b : Activity κ α} {x : α} {k : Kernel κ} : Step a b → EndsIn n b x k →
    EndsIn (n + 1) a x k

variable {n : Nat} {a b : Activity κ α} {x : α} {z : β} {k k' : Kernel κ}
  {f : α → Kernel κ → Activity κ β}

/-- What is brought to its end is brought there by steps. -/
theorem EndsIn.steps (h : EndsIn n a x k) : Steps a (.done x k) := by
  induction h with
  | done x k => exact .refl
  | step first _ ih => exact .head first ih

/-- What steps bring to its end is brought there in some number of them. -/
theorem Steps.endsIn (h : Steps a (.done x k)) : ∃ n, EndsIn n a x k := by
  induction h using Relation.ReflTransGen.head_induction_on with
  | refl => exact ⟨0, .done x k⟩
  | head first _ ih =>
    obtain ⟨n, ends⟩ := ih
    exact ⟨n + 1, .step first ends⟩

/-- While the first of two activities has not ended, it is what takes steps. -/
theorem Step.of_bind {b : Activity κ β} (h : Step (a.bind f) b) :
    (∃ y m, a = .done y m) ∨ ∃ a', Step a a' ∧ b = a'.bind f := by
  cases a with
  | done y m => exact .inl ⟨y, m, rfl⟩
  | react code occasion k next =>
    cases h with
    | start _ _ _ _ p => exact .inr ⟨_, .start code occasion k next p, rfl⟩
  | host p k next =>
    cases h with
    | finish r => exact .inr ⟨_, .finish r k next, rfl⟩
    | inspect g => exact .inr ⟨_, .inspect g k next, rfl⟩
    | probe q g => exact .inr ⟨_, .probe q g k next, rfl⟩
    | command order c g => exact .inr ⟨_, .command order c g k next, rfl⟩
    | request order c g =>
      have regrouped := bind_assoc (c.activity order k) (fun reply k => .host (g reply) k next) f
      exact .inr ⟨_, .request order c g k next, regrouped.symm⟩
  | call c k next =>
    cases h with
    | call order => exact .inr ⟨_, .call order c k next, (bind_assoc _ _ _).symm⟩

/-- What comes to an end after an activity does so after the end of that activity. -/
theorem EndsIn.of_bind (h : EndsIn n (a.bind f) z k) :
    ∃ i j y m, EndsIn i a y m ∧ EndsIn j (f y m) z k ∧ i + j = n := by
  induction n generalizing a with
  | zero =>
    cases a with
    | done y m => exact ⟨0, 0, y, m, .done y m, h, rfl⟩
    | react code occasion k next => cases h
    | host p k next => cases h
    | call c k next => cases h
  | succ n ih =>
    cases h with
    | step first rest =>
      rcases first.of_bind with ⟨y, m, rfl⟩ | ⟨a', first', rfl⟩
      · exact ⟨0, n + 1, y, m, .done y m, .step first rest, Nat.zero_add _⟩
      · obtain ⟨i, j, y, m, ends, ends', rfl⟩ := ih rest
        exact ⟨i + 1, j, y, m, .step first' ends, ends', Nat.succ_add_eq_add_succ i j⟩

/-- What has ended stays as it is. -/
theorem EndsIn.of_done {y : α} {m : Kernel κ} (h : EndsIn n (.done y m) x k) : y = x ∧ m = k := by
  cases h with
  | done => exact ⟨rfl, rfl⟩
  | step first _ => cases first

/-- What has ended goes no further. -/
theorem Steps.of_done {y : α} {m : Kernel κ} (h : Steps (.done y m) (.done x k)) :
    y = x ∧ m = k := by
  obtain ⟨_, ends⟩ := h.endsIn
  exact ends.of_done

/-- An activity that makes a call goes on where the call has ended. -/
theorem EndsIn.of_call {c : Call} {next : Except Fault c.Reply → Kernel κ → Activity κ α}
    (h : EndsIn n (.call c k next) x k') : ∃ order i j r m,
      EndsIn i (c.activity order k) r m ∧ EndsIn j (next r m) x k' ∧ i + j < n := by
  cases h with
  | step first rest =>
    cases first with
    | call order =>
      obtain ⟨i, j, r, m, ends, ends', rfl⟩ := rest.of_bind
      exact ⟨order, i, j, r, m, ends, ends', Nat.lt_succ_self _⟩

/-- An activity that waits for host code goes on where that has ended. -/
theorem EndsIn.of_react {code : κ} {occasion : Occasion}
    {next : Except Fault Unit → Kernel κ → Activity κ α}
    (h : EndsIn n (.react code occasion k next) x k') : ∃ i r m,
      Steps (.react code occasion k .done) (.done r m) ∧ EndsIn i (next r m) x k' := by
  have split : Activity.react code occasion k next =
      (Activity.react code occasion k .done).bind next := rfl
  rw [split] at h
  obtain ⟨_, j, r, m, reacts, ends, _⟩ := h.of_bind
  exact ⟨j, r, m, reacts.steps, ends⟩

/-- What is run to its end after an activity goes on from the end of that activity. -/
theorem Steps.of_bind (h : Steps (a.bind f) (.done z k')) :
    ∃ y m, Steps a (.done y m) ∧ Steps (f y m) (.done z k') := by
  obtain ⟨_, ends⟩ := h.endsIn
  obtain ⟨_, _, y, m, first, second, _⟩ := ends.of_bind
  exact ⟨y, m, first.steps, second.steps⟩

/-- An activity that waits for host code goes on from the end of the host code. -/
theorem Steps.of_react {code : κ} {occasion : Occasion}
    {next : Except Fault Unit → Kernel κ → Activity κ α}
    (h : Steps (.react code occasion k next) (.done x k')) : ∃ r m,
      Steps (.react code occasion k .done) (.done r m) ∧ Steps (next r m) (.done x k') := by
  obtain ⟨_, ends⟩ := h.endsIn
  obtain ⟨_, r, m, reacts, ends⟩ := ends.of_react
  exact ⟨r, m, reacts, ends.steps⟩

/-- An activity that makes a call goes on from the end of the call. -/
theorem Steps.of_call {c : Call} {next : Except Fault c.Reply → Kernel κ → Activity κ α}
    (h : Steps (.call c k next) (.done x k')) : ∃ order r m,
      Steps (c.activity order k) (.done r m) ∧ Steps (next r m) (.done x k') := by
  obtain ⟨_, ends⟩ := h.endsIn
  obtain ⟨order, _, _, r, m, first, second, _⟩ := ends.of_call
  exact ⟨order, r, m, first.steps, second.steps⟩

end Activity

end ReactiveKernel
