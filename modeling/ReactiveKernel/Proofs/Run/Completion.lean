import Mathlib.Data.Nat.Find
import ReactiveKernel.Proofs.Run.Ending
import ReactiveKernel.Proofs.Run.Script

/-!
# Activities that end with their callbacks

A drain leaves control to callbacks and to nobody else. So it comes to its end exactly if each
callback that it starts does, in the kernel in which it is started. What the same code would do in
other kernels does not matter. This holds for the calls of a host, where code starts afresh each
time, and for scripted runs, where it may have a memory of its own.
-/

namespace ReactiveKernel

variable {κ α β : Type}

namespace Activity

/-- An activity that leaves control to callbacks and to nobody else. -/
inductive Notifies : Activity κ α → Prop
  /-- It has ended. -/
  | done (x : α) (k : Kernel κ) : Notifies (.done x k)
  /-- A callback is due, and then further ones. -/
  | callback {code : κ} {n : Notification} {k : Kernel κ}
    {next : Except Fault Unit → Kernel κ → Activity κ α} (rest : ∀ r m, Notifies (next r m)) :
    Notifies (.react code (.notified n) k next)

variable {a b : Activity κ α} {f : α → Kernel κ → Activity κ β} {x : α} {k k' m : Kernel κ}
  {s : Script κ}

/-- Two activities that leave control to callbacks do so one after the other. -/
theorem Notifies.bind (h : a.Notifies) (rest : ∀ x k, (f x k).Notifies) : (a.bind f).Notifies := by
  induction h with
  | done x k => exact rest x k
  | callback _ ih => exact .callback fun r m => ih r m

/-- The delivery of a wave leaves control to callbacks only. -/
theorem notifies_deliver (g : Nat) (wave : List SubscriptionId) (tally : WaveTally)
    (k : Kernel κ) : (k.deliver g wave tally).Notifies := by
  induction wave generalizing tally k with
  | nil => exact .done _ _
  | cons id rest ih =>
    unfold Kernel.deliver
    split
    · exact ih _ _
    · refine .callback fun r m => ?_
      cases r with
      | ok u => exact ih _ _
      | error fault =>
        dsimp only
        split
        · exact ih _ _
        · exact .done _ _

/-- The waves of a drain leave control to callbacks only. -/
theorem notifies_waves (remaining : Nat) (report : DrainReport) (k : Kernel κ) :
    (k.waves remaining report).Notifies := by
  induction remaining generalizing report k with
  | zero =>
    unfold Kernel.waves
    split <;> exact .done _ _
  | succ remaining ih =>
    unfold Kernel.waves
    split
    · exact .done _ _
    · refine (notifies_deliver _ _ _ _).bind fun r m => ?_
      obtain ⟨outcome, tally⟩ := r
      cases outcome with
      | ok u => exact ih _ _
      | error fault => exact .done _ _

/-- A drain leaves control to callbacks only. -/
theorem notifies_drain (k : Kernel κ) : k.drain.Notifies := by
  unfold Kernel.drain
  split
  · exact .done _ _
  · dsimp only
    split
    · exact .done _ _
    · exact (notifies_waves _ _ _).bind fun _ _ => .done _ _

end Activity

/-! Callbacks of a host. -/

namespace Host

variable {h : Host κ} {a b : Activity κ α} {x : α} {k k' m m' : Kernel κ}

/-- The host brings an activity to this point, callback by callback. -/
inductive Reaches (h : Host κ) : Activity κ α → Activity κ α → Prop
  /-- It is there. -/
  | here (a : Activity κ α) : Reaches h a a
  /-- A callback comes to its end, and then further ones do. -/
  | callback {b : Activity κ α} {code : κ} {n : Notification} {k m : Kernel κ}
    {next : Except Fault Unit → Kernel κ → Activity κ α} {r : Except Fault Unit}
    (reacts : h.Reacts code (.notified n) k r m) (rest : Reaches h (next r m) b) :
    Reaches h (.react code (.notified n) k next) b

/-- Every callback that an activity starts comes to its end. -/
def Completes (h : Host κ) (a : Activity κ α) : Prop :=
  ∀ code n k next, h.Reaches a (.react code (.notified n) k next) →
    ∃ r k', h.Reacts code (.notified n) k r k'

/-- Host code comes to no two ends. -/
theorem Reacts.unique {code : κ} {occasion : Occasion} {r r' : Except Fault Unit}
    (reacts : h.Reacts code occasion k r m) (reacts' : h.Reacts code occasion k r' m') :
    r = r' ∧ m = m' := by
  obtain ⟨depth, run⟩ := reacts
  obtain ⟨depth', run'⟩ := reacts'
  have deep := (h.engine_extends (Nat.le_max_left depth depth')).react _ _ _ _ run
  have deep' := (h.engine_extends (Nat.le_max_right depth depth')).react _ _ _ _ run'
  exact Prod.mk.inj (Option.some.inj (deep.symm.trans deep'))

/-- What is reached from an activity that comes to its end does so too. -/
theorem Reaches.ends (reaches : h.Reaches a b) (ends : h.Ends a x k') : h.Ends b x k' := by
  induction reaches with
  | here => exact ends
  | callback reacts _ ih =>
    obtain ⟨r, m, reacts', ends⟩ := ends.of_react
    obtain ⟨rfl, rfl⟩ := reacts.unique reacts'
    exact ih ends

/-- An activity that leaves control to callbacks comes to its end exactly if these do. -/
theorem completes_iff (notifies : a.Notifies) : h.Completes a ↔ ∃ x k', h.Ends a x k' := by
  constructor
  · intro completes
    induction notifies with
    | done x k => exact ⟨x, k, ends_done x k⟩
    | callback _ ih =>
      obtain ⟨r, m, reacts⟩ := completes _ _ _ _ (.here _)
      obtain ⟨x, k', ends⟩ := ih r m fun code n k next reaches =>
        completes code n k next (.callback reacts reaches)
      exact ⟨x, k', reacts.ends ends⟩
  · rintro ⟨x, k', ends⟩ code n k next reaches
    obtain ⟨r, m, reacts, _⟩ := (reaches.ends ends).of_react
    exact ⟨r, m, reacts⟩

end Host

/-! Callbacks of a scripted run. -/

namespace Script

/-- The script from a later step on. -/
def later (s : Script κ) (n : Nat) : Script κ :=
  ⟨fun m => s.behave (n + m), fun m => s.order (n + m)⟩

/-- Every callback that is started in the scripted run of an activity comes to its end. -/
def Completes (s : Script κ) (a : Activity κ α) : Prop :=
  ∀ t code n k next, a.after s t = .react code (.notified n) k next →
    ∃ j r k', (Activity.react code (.notified n) k .done).after (s.later t) j = .done r k'

end Script

namespace Activity

variable {a : Activity κ α} {f : α → Kernel κ → Activity κ β} {s : Script κ} {x : α} {z : β}
  {k k' : Kernel κ} {n : Nat}

/-- A scripted run goes on by the rest of its script. -/
theorem after_add (s : Script κ) (a : Activity κ α) (m n : Nat) :
    a.after s (m + n) = (a.after s m).after (s.later m) n := by
  induction n with
  | zero => rfl
  | succ n ih => rw [← Nat.add_assoc, after, after, ih, Script.later]

/-- What has ended stays as it is. -/
theorem after_done (s : Script κ) (x : α) (k : Kernel κ) (n : Nat) :
    (Activity.done x k).after s n = .done x k := by
  induction n with
  | zero => rfl
  | succ n ih => rw [after, ih, advance]

/-- While the first of two activities has not ended, it is what goes on. -/
theorem advance_bind {behave : κ → Occasion → Program κ (Except Fault Unit)} {order : EdgeOrder κ}
    (ongoing : ∀ x k, a ≠ .done x k) :
    (a.bind f).advance behave order = (a.advance behave order).bind f := by
  cases a with
  | done x k => exact absurd rfl (ongoing x k)
  | react code occasion k next => rfl
  | call c k next => exact (bind_assoc _ _ _).symm
  | host p k next =>
    cases p with
    | call c g => exact (bind_assoc (c.activity order k) (fun r k => .host (g r) k next) f).symm
    | _ => rfl

/-- As long as the first of two activities has not ended, the scripted run is one of that. -/
theorem after_bind (ongoing : ∀ i < n, ∀ x k, a.after s i ≠ .done x k) :
    (a.bind f).after s n = (a.after s n).bind f := by
  induction n with
  | zero => rfl
  | succ n ih =>
    rw [after, ih fun i hi => ongoing i (Nat.lt_succ_of_lt hi), after]
    exact advance_bind (ongoing n (Nat.lt_succ_self n))

/-- If two activities come to their end one after the other, the first one does. -/
theorem after_of_bind (ends : (a.bind f).after s n = .done z k') :
    ∃ j x k, a.after s j = .done x k := by
  by_contra never
  have ongoing (i : Nat) (x : α) (k : Kernel κ) : a.after s i ≠ .done x k := fun same =>
    never ⟨i, x, k, same⟩
  rw [after_bind fun i _ => ongoing i] at ends
  cases reached : a.after s n with
  | done x k => exact ongoing n x k reached
  | _ =>
    rw [reached] at ends
    cases ends

/-- If the first of two activities comes to its end, the second one goes on from there. -/
theorem after_bind_done (ends : ∃ j x k, a.after s j = .done x k)
    (f : α → Kernel κ → Activity κ β) :
    ∃ j x k, a.after s j = .done x k ∧ (a.bind f).after s j = f x k := by
  classical
  have last := Nat.find_spec ends
  obtain ⟨x, k, ended⟩ := last
  refine ⟨Nat.find ends, x, k, ended, ?_⟩
  rw [after_bind fun i hi x k same => Nat.find_min ends hi ⟨x, k, same⟩, ended]
  rfl

/-- The scripted run of an activity that leaves control to callbacks comes to its end exactly if
these do. -/
theorem completes_iff (notifies : a.Notifies) (s : Script κ) :
    s.Completes a ↔ ∃ n x k, a.after s n = .done x k := by
  constructor
  · intro completes
    induction notifies generalizing s with
    | done x k => exact ⟨0, x, k, rfl⟩
    | @callback code n k next _ ih =>
      have whole : s.later 0 = s := by simp [Script.later]
      have returns := completes 0 code n k next rfl
      rw [whole] at returns
      obtain ⟨j, r, m, _, goes_on⟩ := after_bind_done returns next
      have split : (Activity.react code (.notified n) k next).after s j = next r m := goes_on
      obtain ⟨i, x, k', ends⟩ := ih r m (s.later j) fun t code n k next reached => by
        rw [← split, ← after_add] at reached
        have same : (s.later j).later t = s.later (j + t) := by
          simp [Script.later, Nat.add_assoc]
        rw [same]
        exact completes (j + t) code n k next reached
      refine ⟨j + i, x, k', ?_⟩
      rw [after_add, split, ends]
  · rintro ⟨last, x, k', ends⟩ t code n k next reached
    rcases Nat.le_total last t with ended | running
    · obtain ⟨d, rfl⟩ := Nat.exists_eq_add_of_le ended
      rw [after_add, ends, after_done] at reached
      cases reached
    · obtain ⟨d, rfl⟩ := Nat.exists_eq_add_of_le running
      rw [after_add, reached] at ends
      exact after_of_bind (f := next) ends

end Activity

end ReactiveKernel
