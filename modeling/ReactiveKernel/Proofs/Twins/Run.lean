import ReactiveKernel.Proofs.Run.Callback
import ReactiveKernel.Proofs.Run.Step
import ReactiveKernel.Proofs.Twins.Lockstep

/-!
# Runs from twins

Two runs of one host from twins are in lockstep: after the same number of steps they are at the same
point with twins, and the same callbacks were started in the same order. The same holds of what two
hosts compute that differ in the order of walking only: both have a result or neither has, and the
results are the same.
-/

namespace ReactiveKernel

variable {κ α : Type}

namespace Activity

/-- One step of a run in which host code that is due does what the host lets it do. -/
def Proceeds (behave : κ → Occasion → Program κ (Except Fault Unit)) (a b : Activity κ α) : Prop :=
  Step a b ∧ ∀ code occasion k next, a = .react code occasion k next →
    b = .host (behave code occasion) k next

/-- So many steps of a run of a host, and the notifications of the callbacks that started, in this
order. -/
inductive Plays (behave : κ → Occasion → Program κ (Except Fault Unit)) :
    Nat → Activity κ α → List Notification → Activity κ α → Prop
  /-- No step. -/
  | refl (a : Activity κ α) : Plays behave 0 a [] a
  /-- One more step, which starts the callback that is due. -/
  | tail {n : Nat} {a b c : Activity κ α} {ns : List Notification} : Plays behave n a ns b →
    Proceeds behave b c → Plays behave (n + 1) a (ns ++ b.due?.toList) c

end Activity

namespace Likeness

open Activity

variable {L : Likeness κ} {behave : κ → Occasion → Program κ (Except Fault Unit)}

/-- The same callback is due in paired activities. -/
theorem Paired.due {a a' : Activity κ α} (h : L.Paired a a') : a'.due? = a.due? := by
  cases h with
  | react code occasion => cases occasion <;> rfl
  | _ => rfl

/-- A step of each of two paired activities leads to paired ones. -/
theorem Paired.step (sound : L.Sound) (orders : ∀ order order', L.Orders order order')
    (blind : ∀ code occasion, (behave code occasion).Blind L) {a a' b b' : Activity κ α}
    (h : L.Paired a a') (step : Proceeds behave a b) (step' : Proceeds behave a' b') :
    L.Paired b b' := by
  cases h with
  | done x twins => cases step.1
  | react code occasion twins rest =>
    rw [step.2 _ _ _ _ rfl, step'.2 _ _ _ _ rfl]
    exact .host _ (blind code occasion) twins rest
  | call c twins rest =>
    obtain ⟨step, _⟩ := step
    obtain ⟨step', _⟩ := step'
    cases step with
    | call order =>
      cases step' with
      | call order' => exact (sound.paired_activity (orders order order') c twins).bind rest
  | @host p k k' next next' seen twins rest =>
    obtain ⟨step, _⟩ := step
    obtain ⟨step', _⟩ := step'
    cases p with
    | pure r =>
      cases step
      cases step'
      exact rest r k k' twins
    | inspect f =>
      cases step
      cases step'
      rw [← twins.state]
      exact .host _ (seen _) twins rest
    | probe q f =>
      cases step
      cases step'
      have probed := sound.twins_probe q twins
      rw [← seen.1 _ _ probed.1]
      exact .host _ (seen.2 _) probed.2 rest
    | command c f =>
      cases step with
      | command order =>
        cases step' with
        | command order' =>
          have performed := sound.twins_perform (orders order order') c twins
          rw [← performed.1]
          exact .host _ (seen _) performed.2 rest
    | call c f =>
      cases step with
      | request order =>
        cases step' with
        | request order' =>
          refine (sound.paired_activity (orders order order') c twins).bind fun r m m' back => ?_
          exact .host _ (seen r) back rest

/-- After the same number of steps, two runs from twins are at the same point with twins, and they
have started the same callbacks. -/
theorem Paired.plays (sound : L.Sound) (orders : ∀ order order', L.Orders order order')
    (blind : ∀ code occasion, (behave code occasion).Blind L) {n : Nat}
    {a a' b b' : Activity κ α} {ns ns' : List Notification} (h : L.Paired a a')
    (plays : Plays behave n a ns b) (plays' : Plays behave n a' ns' b') :
    ns' = ns ∧ L.Paired b b' := by
  induction plays generalizing ns' b' with
  | refl a =>
    cases plays'
    exact ⟨rfl, h⟩
  | tail _ step ih =>
    cases plays' with
    | tail earlier' step' =>
      obtain ⟨same, paired⟩ := ih h earlier'
      rw [same, paired.due]
      exact ⟨rfl, paired.step sound orders blind step step'⟩

/-! What hosts compute. -/

/-- Neither has a result, or both have the same one with twins. -/
inductive Agree (L : Likeness κ) : Option (α × Kernel κ) → Option (α × Kernel κ) → Prop
  /-- Neither has a result. -/
  | neither : Agree L none none
  /-- Both have the same one. -/
  | both (x : α) {k k' : Kernel κ} : L.Twins k k' → Agree L (some (x, k)) (some (x, k'))

/-- Two engines that agree whenever they start with twins. -/
structure EnginesAgree (L : Likeness κ) (e e' : Engine κ) : Prop where
  /-- Sets are walked alike. -/
  orders : L.Orders e.order e'.order
  /-- Host code has the same results. -/
  react : ∀ code occasion {k k'}, L.Twins k k' →
    L.Agree (e.react code occasion k) (e'.react code occasion k')
  /-- Calls have the same results. -/
  call : ∀ c {k k'}, L.Twins k k' → L.Agree (e.call c k) (e'.call c k')

/-- Results that agree are missing on both sides or are the same. -/
theorem Agree.cases {r r' : Option (α × Kernel κ)} (h : L.Agree r r') :
    r = none ∧ r' = none ∨ ∃ x k k', r = some (x, k) ∧ r' = some (x, k') ∧ L.Twins k k' := by
  cases h with
  | neither => exact .inl ⟨rfl, rfl⟩
  | both x twins => exact .inr ⟨x, _, _, rfl, rfl, twins⟩

/-- A program has the same result with twins if calls have. -/
theorem agree_exec (sound : L.Sound) {order order' : EdgeOrder κ} (orders : L.Orders order order')
    {call call' : (c : Call) → Kernel κ → Option (Except Fault c.Reply × Kernel κ)}
    (calls : ∀ c {k k'}, L.Twins k k' → L.Agree (call c k) (call' c k')) {p : Program κ α}
    (blind : p.Blind L) {k k' : Kernel κ} (h : L.Twins k k') :
    L.Agree (p.exec order call k) (p.exec order' call' k') := by
  induction p generalizing k k' with
  | pure a => exact .both a h
  | inspect f ih =>
    simp only [Program.exec, ← h.state]
    exact ih _ (blind _) h
  | probe q f ih =>
    have probed := sound.twins_probe q h
    simp only [Program.exec, ← blind.1 _ _ probed.1]
    exact ih _ (blind.2 _) probed.2
  | command c f ih =>
    have performed := sound.twins_perform orders c h
    simp only [Program.exec, ← performed.1]
    exact ih _ (blind _) performed.2
  | call c f ih =>
    simp only [Program.exec]
    rcases (calls c h).cases with ⟨ends, ends'⟩ | ⟨r, m, m', ends, ends', back⟩
    · simp only [ends, ends']
      exact .neither
    · simp only [ends, ends']
      exact ih r (blind r) back

/-- Paired activities have the same result if host code and calls have. -/
theorem agree_run (sound : L.Sound) {e e' : Engine κ} (engines : L.EnginesAgree e e')
    {a a' : Activity κ α} (h : L.Paired a a') : L.Agree (a.run e) (a'.run e') := by
  induction h with
  | done x twins => exact .both x twins
  | react code occasion twins _ ih =>
    simp only [Activity.run]
    rcases (engines.react code occasion twins).cases with
      ⟨ends, ends'⟩ | ⟨r, m, m', ends, ends', back⟩
    · simp only [ends, ends']
      exact .neither
    · simp only [ends, ends']
      exact ih r m m' back
  | host p blind twins _ ih =>
    simp only [Activity.run]
    rcases (agree_exec sound engines.orders engines.call blind twins).cases with
      ⟨ends, ends'⟩ | ⟨r, m, m', ends, ends', back⟩
    · simp only [ends, ends']
      exact .neither
    · simp only [ends, ends']
      exact ih r m m' back
  | call c twins _ ih =>
    simp only [Activity.run]
    rcases (engines.call c twins).cases with ⟨ends, ends'⟩ | ⟨r, m, m', ends, ends', back⟩
    · simp only [ends, ends']
      exact .neither
    · simp only [ends, ends']
      exact ih r m m' back

variable {h h' : Host κ}

/-- Two hosts with the same host code have engines that agree at every depth. -/
theorem engines_agree (sound : L.Sound) (orders : L.Orders h.order h'.order)
    (same : h'.behave = h.behave) (blind : ∀ code occasion, (h.behave code occasion).Blind L)
    (depth : Nat) : L.EnginesAgree (h.engine depth) (h'.engine depth) := by
  induction depth with
  | zero => exact ⟨orders, fun _ _ _ _ _ => .neither, fun _ _ _ _ => .neither⟩
  | succ depth ih =>
    refine ⟨orders, fun code occasion k k' twins => ?_, fun c k k' twins => ?_⟩
    · simp only [Host.engine, same]
      exact agree_exec sound orders ih.call (blind code occasion) twins
    · exact agree_run sound ih (sound.paired_activity orders c twins)

/-- Two hosts with the same host code compute the same from twins. -/
theorem agree_execute (sound : L.Sound) (orders : L.Orders h.order h'.order)
    (same : h'.behave = h.behave) (blind : ∀ code occasion, (h.behave code occasion).Blind L)
    (depth : Nat) {p : Program κ α} (seen : p.Blind L) {k k' : Kernel κ} (twins : L.Twins k k') :
    L.Agree (h.execute depth p k) (h'.execute depth p k') :=
  agree_exec sound orders (engines_agree sound orders same blind depth).call seen twins

end Likeness

end ReactiveKernel
