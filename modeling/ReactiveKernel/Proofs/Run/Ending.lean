import ReactiveKernel.Execution.Depth

/-!
# How activities end

A host brings an activity to its end if some depth of nested calls is enough. Ends are put together
from the ends of parts.
-/

namespace ReactiveKernel

variable {κ α β : Type}

/-- The second of two activities is followed from the end of the first one. -/
theorem Activity.run_bind (e : Engine κ) (a : Activity κ α) (f : α → Kernel κ → Activity κ β) :
    (a.bind f).run e = (a.run e).bind fun r => (f r.1 r.2).run e := by
  induction a with
  | done x k => rfl
  | react code occasion k next ih =>
    simp only [bind, run]
    cases e.react code occasion k with
    | none => rfl
    | some result => exact ih result.1 result.2
  | host p k next ih =>
    simp only [bind, run]
    cases p.exec e.order e.call k with
    | none => rfl
    | some result => exact ih result.1 result.2
  | call c k next ih =>
    simp only [bind, run]
    cases e.call c k with
    | none => rfl
    | some result => exact ih result.1 result.2

namespace Host

variable (h : Host κ)

/-- The host brings an activity to this end. -/
def Ends (a : Activity κ α) (x : α) (k : Kernel κ) : Prop :=
  ∃ depth, a.run (h.engine depth) = some (x, k)

/-- The host brings host code to this end. -/
def Reacts (code : κ) (occasion : Occasion) (k : Kernel κ) (r : Except Fault Unit)
    (k' : Kernel κ) : Prop :=
  ∃ depth, (h.engine depth).react code occasion k = some (r, k')

variable {h} {a : Activity κ α} {x : α} {k k' : Kernel κ}

/-- What has ended is at its end. -/
theorem ends_done (x : α) (k : Kernel κ) : h.Ends (.done x k) x k := ⟨0, rfl⟩

/-- Host code comes to its end, and then the rest does. -/
theorem Reacts.ends {code : κ} {occasion : Occasion} {m : Kernel κ} {r : Except Fault Unit}
    {next : Except Fault Unit → Kernel κ → Activity κ α} (reacts : h.Reacts code occasion k r m)
    (rest : h.Ends (next r m) x k') : h.Ends (.react code occasion k next) x k' := by
  obtain ⟨depth, react⟩ := reacts
  obtain ⟨depth', run⟩ := rest
  have reacted := (h.engine_extends (Nat.le_max_left depth depth')).react _ _ _ _ react
  have ended := (next r m).run_mono (h.engine_extends (Nat.le_max_right depth depth')) run
  refine ⟨max depth depth', ?_⟩
  simp only [Activity.run, reacted]
  exact ended

/-- One activity comes to its end, and then another one does. -/
theorem Ends.bind {m : Kernel κ} {y : α} {f : α → Kernel κ → Activity κ β} {z : β}
    (first : h.Ends a y m) (second : h.Ends (f y m) z k') : h.Ends (a.bind f) z k' := by
  obtain ⟨depth, run⟩ := first
  obtain ⟨depth', run'⟩ := second
  have ended := a.run_mono (h.engine_extends (Nat.le_max_left depth depth')) run
  have ended' := (f y m).run_mono (h.engine_extends (Nat.le_max_right depth depth')) run'
  refine ⟨max depth depth', ?_⟩
  rw [Activity.run_bind, ended]
  exact ended'

/-- An activity that has ended comes to no other end. -/
theorem Ends.of_done {y : α} {m : Kernel κ} (ends : h.Ends (.done y m) x k) : y = x ∧ m = k := by
  obtain ⟨depth, run⟩ := ends
  exact Prod.mk.inj (Option.some.inj run)

/-- An activity that waits for host code ends after it has come to its end. -/
theorem Ends.of_react {code : κ} {occasion : Occasion}
    {next : Except Fault Unit → Kernel κ → Activity κ α}
    (ends : h.Ends (.react code occasion k next) x k') :
    ∃ r m, h.Reacts code occasion k r m ∧ h.Ends (next r m) x k' := by
  obtain ⟨depth, run⟩ := ends
  rw [Activity.run] at run
  cases react : (h.engine depth).react code occasion k with
  | none => simp [react] at run
  | some result =>
    simp only [react] at run
    exact ⟨result.1, result.2, ⟨depth, react⟩, ⟨depth, run⟩⟩

/-- Of two activities that come to an end one after another, both do. -/
theorem Ends.of_bind {f : α → Kernel κ → Activity κ β} {z : β} (ends : h.Ends (a.bind f) z k') :
    ∃ y m, h.Ends a y m ∧ h.Ends (f y m) z k' := by
  obtain ⟨depth, run⟩ := ends
  rw [Activity.run_bind] at run
  obtain ⟨⟨y, m⟩, first, second⟩ := Option.bind_eq_some_iff.mp run
  exact ⟨y, m, ⟨depth, first⟩, ⟨depth, second⟩⟩

/-- Host code comes to its end as the program does that the host runs for it. -/
theorem reacts_iff {code : κ} {occasion : Occasion} {r : Except Fault Unit} :
    h.Reacts code occasion k r k' ↔ ∃ depth, (h.behave code occasion).exec h.order
      (fun c k => (h.engine depth).call c k) k = some (r, k') := by
  constructor
  · rintro ⟨depth, react⟩
    cases depth with
    | zero => cases react
    | succ depth => exact ⟨depth, react⟩
  · rintro ⟨depth, exec⟩
    exact ⟨depth + 1, exec⟩

/-- A call whose activity comes to an end returns at every depth that is great enough. -/
theorem Ends.call {c : Call} {r : Except Fault c.Reply}
    (ends : h.Ends (c.activity h.order k) r k') :
    ∃ depth, ∀ deeper, depth ≤ deeper → (h.engine deeper).call c k = some (r, k') := by
  obtain ⟨depth, run⟩ := ends
  refine ⟨depth + 1, fun deeper le => ?_⟩
  have called : (h.engine (depth + 1)).call c k = some (r, k') := run
  exact (h.engine_extends le).call c k _ called

/-- The activity of a call comes to its end, and then the rest does. -/
theorem Ends.next {c : Call} {r : Except Fault c.Reply} {m : Kernel κ}
    {next : Except Fault c.Reply → Kernel κ → Activity κ α}
    (ends : h.Ends (c.activity h.order k) r m) (rest : h.Ends (next r m) x k') :
    h.Ends (.call c k next) x k' := by
  obtain ⟨depth, called⟩ := ends.call
  obtain ⟨depth', run⟩ := rest
  have ended := (next r m).run_mono (h.engine_extends (Nat.le_max_right depth depth')) run
  refine ⟨max depth depth', ?_⟩
  simp only [Activity.run, called _ (Nat.le_max_left depth depth')]
  exact ended

end Host

/-! How drains that succeed come to their ends. -/

namespace Kernel

variable {h : Host κ} {k k' : Kernel κ}

/-- The tally when a callback has ended and the wave goes on. -/
def tallyAfter (tally : WaveTally) : Except Fault Unit → WaveTally
  | .ok () => { tally with callbacks := tally.callbacks + 1 }
  | .error _ =>
    { tally with callbacks := tally.callbacks + 1, failures := tally.failures + 1 }

/-- The kernel when a callback has ended and the wave goes on. -/
def afterCallback (k : Kernel κ) (n : Notification) : Except Fault Unit → Kernel κ
  | .ok () => k.finishCallback n (.ok ())
  | .error fault => (k.finishCallback n (.error fault)).log
      (.callbackFailed n.subscription n.generation fault)

/-- A wave comes to its end if the callback of its first turn does, if it goes on in case that the
callback fails, and if the rest comes to its end. -/
theorem ends_deliver_cons {g : Nat} {id : SubscriptionId} {rest : List SubscriptionId}
    {tally tally' : WaveTally} {e : Subscription} {code : κ}
    (here : k.edges.callback? id = some (e, code)) :
    h.Ends (k.deliver g (id :: rest) tally) (.ok (), tally') k' ↔
      ∃ r m, h.Reacts code (.notified ⟨id, e.source, e.target, g⟩)
          (k.startCallback ⟨id, e.source, e.target, g⟩) r m ∧
        (∀ fault, r = .error fault → m.settings.onFailure = .log) ∧
        h.Ends ((m.afterCallback ⟨id, e.source, e.target, g⟩ r).deliver g rest (tallyAfter tally r))
          (.ok (), tally') k' := by
  simp only [deliver, here]
  constructor
  · intro ends
    obtain ⟨r, m, reacts, ends⟩ := ends.of_react
    refine ⟨r, m, reacts, ?_⟩
    cases r with
    | ok u => exact ⟨by simp, ends⟩
    | error fault =>
      cases policy : m.settings.onFailure with
      | log =>
        have goes : (m.finishCallback ⟨id, e.source, e.target, g⟩
            (.error fault)).settings.onFailure = .log := policy
        simp only [goes] at ends
        exact ⟨fun _ _ => rfl, ends⟩
      | abort =>
        have stops : (m.finishCallback ⟨id, e.source, e.target, g⟩
            (.error fault)).settings.onFailure = .abort := policy
        simp only [stops] at ends
        cases ends.of_done.1
  · rintro ⟨r, m, reacts, goes, ends⟩
    refine reacts.ends ?_
    cases r with
    | ok u => exact ends
    | error fault =>
      have goes : (m.finishCallback ⟨id, e.source, e.target, g⟩
          (.error fault)).settings.onFailure = .log := goes fault rfl
      simp only [goes]
      exact ends

variable {remaining : Nat} {report report' : DrainReport}

/-- With nothing pending there are no waves. -/
theorem ends_waves_idle (idle : k.schedule.pending.isEmpty = true) :
    h.Ends (k.waves remaining report) (.ok (), report') k' ↔ report' = report ∧ k' = k := by
  unfold waves
  rw [if_pos idle]
  constructor
  · intro ends
    obtain ⟨same, rfl⟩ := ends.of_done
    cases same
    exact ⟨rfl, rfl⟩
  · rintro ⟨rfl, rfl⟩
    exact Host.ends_done _ _

/-- Otherwise a wave is taken, it comes to its end, and further waves do. -/
theorem ends_waves_succ (waits : k.schedule.pending.isEmpty = false) :
    h.Ends (k.waves (remaining + 1) report) (.ok (), report') k' ↔
      ∃ tally k₁, h.Ends (k.takeWave.2.deliver k.takeWave.2.generation
          k.schedule.pending.toList ⟨0, 0, 0⟩) (.ok (), tally) k₁ ∧
        h.Ends ((k₁.emit (.generationDrained k.takeWave.2.generation tally.callbacks)).waves
          remaining ((report.openWave k.takeWave.2.generation).closeWave tally))
          (.ok (), report') k' := by
  rw [waves, if_neg (by simp [waits])]
  constructor
  · intro ends
    obtain ⟨⟨outcome, tally⟩, k₁, delivered, ends⟩ := ends.of_bind
    cases outcome with
    | ok u => exact ⟨tally, k₁, delivered, ends⟩
    | error fault => cases ends.of_done.1
  · rintro ⟨tally, k₁, delivered, ends⟩
    exact delivered.bind ends

/-- A drain that may take no further wave has nothing pending if it succeeds. -/
theorem idle_of_ends_waves_zero (ends : h.Ends (k.waves 0 report) (.ok (), report') k') :
    k.schedule.pending.isEmpty = true := by
  unfold waves at ends
  split at ends
  · assumption
  · cases ends.of_done.1

/-- A drain with nothing pending does nothing. -/
theorem ends_drain_idle (ready : k.schedule.draining = false)
    (idle : k.schedule.pending.isEmpty = true) :
    h.Ends k.drain (.ok report) k' ↔ report = .startingAt k.generation ∧ k' = k := by
  rw [drain, if_neg (by simp [ready]), if_pos idle]
  constructor
  · intro ends
    obtain ⟨same, rfl⟩ := ends.of_done
    cases same
    exact ⟨rfl, rfl⟩
  · rintro ⟨rfl, rfl⟩
    exact Host.ends_done _ _

/-- A drain with something pending succeeds if its waves do. -/
theorem ends_drain_waits (ready : k.schedule.draining = false)
    (waits : k.schedule.pending.isEmpty = false) :
    h.Ends k.drain (.ok report) k' ↔ ∃ k₁, h.Ends (k.beginDrain.waves k.settings.waveLimit
      (.startingAt k.generation)) (.ok (), report) k₁ ∧ k' = k₁.endDrain (.ok ()) report := by
  rw [drain, if_neg (by simp [ready]), if_neg (by simp [waits])]
  constructor
  · intro ends
    obtain ⟨⟨outcome, report'⟩, k₁, waved, ends⟩ := ends.of_bind
    obtain ⟨same, rfl⟩ := ends.of_done
    cases outcome with
    | error fault => cases same
    | ok u =>
      cases same
      exact ⟨k₁, waved, rfl⟩
  · rintro ⟨k₁, waved, rfl⟩
    exact waved.bind (Host.ends_done _ _)

/-- A drain that succeeds is not within another one. -/
theorem ready_of_ends_drain (ends : h.Ends k.drain (.ok report) k') :
    k.schedule.draining = false := by
  cases ready : k.schedule.draining with
  | false => rfl
  | true =>
    rw [drain, if_pos ready] at ends
    cases ends.of_done.1

end Kernel

end ReactiveKernel
