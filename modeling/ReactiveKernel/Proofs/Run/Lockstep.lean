import ReactiveKernel.Execution.Drain

/-!
# Activities in lockstep

Two activities are abreast when they are at the same point with related kernels. They are in
lockstep when they stay so whatever related kernels they get back from host code and from calls.
Deliveries of a wave are, if the kernels show the same to them.
-/

namespace ReactiveKernel

variable {κ α β : Type}

namespace Activity

/-- Two activities at the same point, with kernels that are related. -/
inductive Abreast (R : Kernel κ → Kernel κ → Prop) : Activity κ α → Activity κ α → Prop
  /-- Both have ended, with the same result. -/
  | done (a : α) {k k' : Kernel κ} : R k k' → Abreast R (.done a k) (.done a k')
  /-- The same host code is due. -/
  | react (code : κ) (occasion : Occasion) {k k' : Kernel κ}
      {next next' : Except Fault Unit → Kernel κ → Activity κ α} : R k k' →
      Abreast R (.react code occasion k next) (.react code occasion k' next')
  /-- The same host code is in control. -/
  | host (p : Program κ (Except Fault Unit)) {k k' : Kernel κ}
      {next next' : Except Fault Unit → Kernel κ → Activity κ α} : R k k' →
      Abreast R (.host p k next) (.host p k' next')
  /-- The same call is to be made. -/
  | call (c : Call) {k k' : Kernel κ}
      {next next' : Except Fault c.Reply → Kernel κ → Activity κ α} : R k k' →
      Abreast R (.call c k next) (.call c k' next')

/-- Two activities at the same point with related kernels, now and after every answer. The host code
that is in control is of an admitted kind. -/
inductive Lockstep (R : Kernel κ → Kernel κ → Prop)
    (admits : Program κ (Except Fault Unit) → Prop) : Activity κ α → Activity κ α → Prop
  /-- Both have ended, with the same result. -/
  | done (a : α) {k k' : Kernel κ} : R k k' → Lockstep R admits (.done a k) (.done a k')
  /-- The same host code is due. -/
  | react (code : κ) (occasion : Occasion) {k k' : Kernel κ}
      {next next' : Except Fault Unit → Kernel κ → Activity κ α} : R k k' →
      (∀ r m m', R m m' → Lockstep R admits (next r m) (next' r m')) →
      Lockstep R admits (.react code occasion k next) (.react code occasion k' next')
  /-- The same host code is in control. -/
  | host (p : Program κ (Except Fault Unit)) {k k' : Kernel κ}
      {next next' : Except Fault Unit → Kernel κ → Activity κ α} : admits p → R k k' →
      (∀ r m m', R m m' → Lockstep R admits (next r m) (next' r m')) →
      Lockstep R admits (.host p k next) (.host p k' next')
  /-- The same call is to be made. -/
  | call (c : Call) {k k' : Kernel κ}
      {next next' : Except Fault c.Reply → Kernel κ → Activity κ α} : R k k' →
      (∀ r m m', R m m' → Lockstep R admits (next r m) (next' r m')) →
      Lockstep R admits (.call c k next) (.call c k' next')

variable {R S : Kernel κ → Kernel κ → Prop} {admits : Program κ (Except Fault Unit) → Prop}

/-- The kernels of two activities at the same point are related. -/
theorem Abreast.kernels {a a' : Activity κ α} (h : a.Abreast R a') : R a.kernel a'.kernel := by
  cases h <;> assumption

/-- Activities in lockstep are abreast. -/
theorem Lockstep.abreast {a a' : Activity κ α} (imp : ∀ k k', R k k' → S k k')
    (h : Lockstep R admits a a') : a.Abreast S a' := by
  cases h with
  | done x related => exact .done x (imp _ _ related)
  | react code occasion related => exact .react code occasion (imp _ _ related)
  | host p _ related => exact .host p (imp _ _ related)
  | call c related => exact .call c (imp _ _ related)

/-- Activities in lockstep that are followed by activities in lockstep. -/
theorem Lockstep.bind {a a' : Activity κ α} {f f' : α → Kernel κ → Activity κ β}
    (h : Lockstep R admits a a')
    (rest : ∀ x k k', R k k' → Lockstep R admits (f x k) (f' x k')) :
    Lockstep R admits (a.bind f) (a'.bind f') := by
  induction h with
  | done x related => exact rest x _ _ related
  | react code occasion related _ ih => exact .react code occasion related ih
  | host p admitted related _ ih => exact .host p admitted related ih
  | call c related _ ih => exact .call c related ih

end Activity

/-- The kernels show the same to the delivery of a wave, and what it does keeps them related. -/
structure Deliverable (R : Kernel κ → Kernel κ → Prop) : Prop where
  /-- The same subscriptions are live. -/
  edges : ∀ {k k'}, R k k' → k'.edges = k.edges
  /-- The same is pending. -/
  schedule : ∀ {k k'}, R k k' → k'.schedule = k.schedule
  /-- The same is done when a callback fails. -/
  onFailure : ∀ {k k'}, R k k' → k'.settings.onFailure = k.settings.onFailure
  /-- The same entry in both journals. -/
  note : ∀ {k k'} (o : Occurrence κ), R k k' → R (k.note o) (k'.note o)
  /-- The same announcement. -/
  emit : ∀ {k k'} (e : TraceEvent), R k k' → R (k.emit e) (k'.emit e)
  /-- What is pending is dropped. -/
  discardPending : ∀ {k k'}, R k k' → R k.discardPending k'.discardPending

/-- The deliveries of a wave are in lockstep. -/
theorem Deliverable.deliver {R : Kernel κ → Kernel κ → Prop}
    {admits : Program κ (Except Fault Unit) → Prop} (deliverable : Deliverable R)
    {k k' : Kernel κ} (generation : Nat) (wave : List SubscriptionId) (tally : WaveTally)
    (h : R k k') : Activity.Lockstep R admits (k.deliver generation wave tally)
      (k'.deliver generation wave tally) := by
  induction wave generalizing tally k k' with
  | nil => exact .done _ h
  | cons id rest ih =>
    simp only [Kernel.deliver, deliverable.edges h]
    cases k.edges.callback? id with
    | none => exact ih _ (deliverable.note _ h)
    | some registered =>
      obtain ⟨s, code⟩ := registered
      have started := deliverable.note (.started ⟨id, s.source, s.target, generation⟩)
        (deliverable.emit (.notified id generation) h)
      refine .react code _ started fun r m m' back => ?_
      cases r with
      | ok u => exact ih _ (deliverable.note _ back)
      | error fault =>
        have finished : R (m.finishCallback ⟨id, s.source, s.target, generation⟩ (.error fault))
            (m'.finishCallback ⟨id, s.source, s.target, generation⟩ (.error fault)) :=
          deliverable.note _ back
        simp only [deliverable.onFailure finished]
        split
        · exact ih _ (deliverable.note _ finished)
        · simp only [Kernel.abortDrain, deliverable.schedule finished]
          exact .done _ (deliverable.note _ (deliverable.discardPending finished))

end ReactiveKernel
