import ReactiveKernel.Proofs.Effect.History
import ReactiveKernel.Proofs.Run.Contract
import ReactiveKernel.Proofs.Transaction

/-!
# Actions

Outside of drains, calls change a kernel by commands and by a few actions of their own; a drain
only changes the schedule and the instruments. A contract that actions keep is kept by calls.
-/

namespace ReactiveKernel

variable {κ : Type}

namespace Kernel

/-- One change of a kernel by an operation that neither drains nor applies outside events. -/
inductive Deed (order : EdgeOrder κ) (k : Kernel κ) : Kernel κ → Prop
  /-- A command is done or refused. -/
  | command (c : Command κ) : Deed order k (c.perform order k).2
  /-- A new closure gets its parameters. -/
  | params (id : ClosureId) (params : List (String × Value)) : Deed order k (k.setParams id params)
  /-- The instantiation of a live closure is announced. -/
  | instantiated (id : ClosureId) (template : String) (live : id ∈ k.closures) :
      Deed order k (k.emit (.closureInstantiated id template))
  /-- A log entry is written. -/
  | log (e : LogEvent) (h : e.isOfDrain = false) : Deed order k (k.log e)

/-- One change of a kernel by an operation other than a drain. -/
inductive Action (order : EdgeOrder κ) (k : Kernel κ) : Kernel κ → Prop
  /-- A command is done or refused. -/
  | command (c : Command κ) : Action order k (c.perform order k).2
  /-- A new closure gets its parameters. -/
  | params (id : ClosureId) (params : List (String × Value)) :
    Action order k (k.setParams id params)
  /-- The whole queue of events is taken. -/
  | takeEvents : Action order k k.takeEvents.2
  /-- The application of an event begins. -/
  | applying (event : Event κ) : Action order k (k.note (.applying event))
  /-- The instantiation of a live closure is announced. -/
  | instantiated (id : ClosureId) (template : String) (live : id ∈ k.closures) :
      Action order k (k.emit (.closureInstantiated id template))
  /-- A log entry is written. -/
  | log (e : LogEvent) (h : e.isOfDrain = false) : Action order k (k.log e)

/-- One change of a kernel by a drain. -/
inductive DrainAction (k : Kernel κ) : Kernel κ → Prop
  /-- A trace event is announced; a subscription that is notified is registered. -/
  | emit (e : TraceEvent) (h : e.isOfDrain = true)
    (registered : ∀ id g, e = .notified id g → id ∈ k.edges.subscriptions) :
      DrainAction k (k.emit e)
  /-- The journal gets an entry. -/
  | note (o : Occurrence κ) (h : o.isOfDrain = true) : DrainAction k (k.note o)
  /-- The schedule changes, and nothing new is pending. -/
  | reschedule (s : Schedule) (h : ∀ id ∈ s.pending, id ∈ k.schedule.pending) :
      DrainAction k (k.mapState fun t => { t with schedule := s })

end Kernel

namespace Command

variable {order : EdgeOrder κ} {k k' : Kernel κ} {c : Command κ}

/-- A command that is done answers and moves the kernel on. -/
theorem perform_of_ok {r : c.Reply} (h : c.attempt order k = .ok (r, k')) :
    c.perform order k = (.ok r, k') := by
  rw [perform_eq, h, Kernel.settle_ok]

/-- A command that is refused leaves the kernel as it was. -/
theorem perform_of_error {fault : Fault} (h : c.attempt order k = .error fault) :
    c.perform order k = (.error fault, k) := by
  rw [perform_eq, h]
  rfl

end Command

namespace Kernel

/-- Removing a closure, if it is live, is the same as the command to destroy it. -/
theorem raze_eq_perform (k : Kernel κ) (order : EdgeOrder κ) (id : ClosureId) :
    k.raze order id = ((Command.destroyClosure id).perform order k).2 := by
  cases h : k.closures[id]? with
  | none =>
    have refused : k.destroyClosure order id = .error (.unknownClosure id) := by
      simp [destroyClosure, State.requireClosure, h, bind, Except.bind]
    rw [Command.perform_of_error (c := .destroyClosure id) refused]
    simp [raze, razeClosure, h]
  | some c =>
    have done : k.destroyClosure order id = .ok ((), k.raze order id) := by
      simp [destroyClosure, State.requireClosure, h, bind, Except.bind, pure, Except.pure]
    rw [Command.perform_of_ok (c := .destroyClosure id) done]

/-- A closure that is made within an operation is made as by a command. -/
theorem createClosure_eq_perform {k k' : Kernel κ} {template : String} {parent : Option ClosureId}
    {id : ClosureId} (order : EdgeOrder κ) (h : k.createClosure template parent = .ok (id, k')) :
    k' = ((Command.createClosure template parent).perform order k).2 := by
  rw [Command.perform_of_ok (c := .createClosure template parent) h]

end Kernel

/-- A deed is an action. -/
theorem Kernel.Deed.action {order : EdgeOrder κ} {k k' : Kernel κ} (h : k.Deed order k') :
    k.Action order k' := by
  cases h with
  | command c => exact .command c
  | params id params => exact .params id params
  | instantiated id template live => exact .instantiated id template live
  | log e h => exact .log e h

namespace Contract

/-- What operations do of their own keeps the contract, drains and the taking of events apart. -/
structure Grounded (C : Contract κ) : Prop extends C.Ordered where
  /-- A closure is made and gets its parameters. -/
  found : ∀ {k k' : Kernel κ} {template : String} {parent : Option ClosureId} {id : ClosureId}
    (params : List (String × Value)), k.createClosure template parent = .ok (id, k') →
    C.holds k → C.Passes k (k'.setParams id params)
  /-- A closure is removed, if it is live. -/
  remove : ∀ (order : EdgeOrder κ) {k : Kernel κ} (id : ClosureId), C.holds k →
    C.Passes k (k.raze order id)
  /-- The instantiation of a live closure is announced. -/
  announce : ∀ {k : Kernel κ} (id : ClosureId) (template : String), id ∈ k.closures →
    C.holds k → C.Passes k (k.emit (.closureInstantiated id template))
  /-- A log entry is written. -/
  report : ∀ {k : Kernel κ} (e : LogEvent), e.isOfDrain = false → C.holds k →
    C.Passes k (k.log e)
  /-- An event is applied. -/
  apply : ∀ (order : EdgeOrder κ) {k : Kernel κ} {event : Event κ} {c : Command κ},
    event.toCommand = .ok (some c) → C.holds k → C.Passes k (c.perform order k).2

/-- What operations other than drains do of their own keeps the contract. -/
structure Receptive (C : Contract κ) : Prop extends C.Grounded where
  /-- The whole queue of events is taken. -/
  take : ∀ {k : Kernel κ}, C.holds k → C.Passes k k.takeEvents.2
  /-- The application of an event begins. -/
  applying : ∀ {k : Kernel κ} (event : Event κ), C.holds k → C.Passes k (k.note (.applying event))

/-- Deeds keep the contract. -/
structure Steady (C : Contract κ) : Prop extends C.Grounded where
  /-- Every deed. -/
  deed : ∀ (order : EdgeOrder κ) {k k'}, k.Deed order k' → C.holds k → C.Passes k k'
  found params made holds :=
    have eq := Kernel.createClosure_eq_perform .ascending made
    have created := deed .ascending (.command (.createClosure _ _)) holds
    have given := deed .ascending (.params _ params) (eq ▸ created.holds)
    toOrdered.passes_trans (eq ▸ created) given
  remove order k id holds :=
    Kernel.raze_eq_perform k order id ▸ deed order (.command (.destroyClosure id)) holds
  announce id template live holds := deed .ascending (.instantiated id template live) holds
  report e h holds := deed .ascending (.log e h) holds
  apply order _ _ c _ holds := deed order (.command c) holds

/-- Actions of operations other than drains keep the contract. -/
structure Stable (C : Contract κ) : Prop extends C.Steady where
  /-- Every action. -/
  act : ∀ (order : EdgeOrder κ) {k k'}, k.Action order k' → C.holds k → C.Passes k k'
  deed order _ _ h := act order h.action

variable {C : Contract κ}

/-- What all actions keep is kept by operations other than drains. -/
theorem Stable.receptive (stable : C.Stable) : C.Receptive where
  toGrounded := stable.toGrounded
  take holds := stable.act .ascending .takeEvents holds
  applying event holds := stable.act .ascending (.applying event) holds

/-- An activity may end where it is. -/
theorem Ordered.done {α : Type} (ordered : C.Ordered) {k : Kernel κ} (holds : C.holds k) (a : α) :
    (Activity.done a k).Safe C k :=
  .done (ordered.passes_refl holds)

/-- An activity that comes after a change that keeps the contract keeps it if the rest does. -/
theorem Ordered.after {α : Type} {a : Activity κ α} (ordered : C.Ordered) {k k' : Kernel κ}
    (first : C.Passes k k') (rest : C.holds k' → a.Safe C k') : a.Safe C k :=
  (rest first.holds).earlier ordered first

/-- Host code that is called keeps the contract. -/
theorem Ordered.reactTo (ordered : C.Ordered) (code : Option κ) (occasion : Occasion)
    {k : Kernel κ} (holds : C.holds k) : (Activity.reactTo code occasion k).Safe C k := by
  cases code with
  | none => exact ordered.done holds _
  | some code => exact .react ordered holds fun r k' hk => ordered.done hk r

/-- The children of a closure are made as the contract says. -/
theorem Ordered.makeChildren (ordered : C.Ordered) (id : ClosureId) (indices : List Nat)
    {k : Kernel κ} (holds : C.holds k) : (k.makeChildren id indices).Safe C k := by
  induction indices generalizing k with
  | nil => exact ordered.done holds _
  | cons index rest ih =>
    refine .call ordered holds fun r k' hk => ?_
    cases r with
    | ok child => exact ih hk
    | error fault => exact ordered.done hk _

/-- Wiring does nothing itself but leave control to host code and calls. -/
theorem Ordered.wire (ordered : C.Ordered) (id : ClosureId) (t : Template κ) {k : Kernel κ}
    (holds : C.holds k) : (k.wire id t).Safe C k := by
  refine .bind ordered (ordered.reactTo t.internal (.instantiated id) holds) ?_
  intro r k' hk
  cases r with
  | ok u => exact ordered.makeChildren id t.topChildren hk
  | error fault => exact ordered.done hk _

/-- Ending by removing a closure keeps the contract. -/
theorem Grounded.raze {α : Type} (grounded : C.Grounded) (order : EdgeOrder κ) (id : ClosureId)
    (a : α) {k : Kernel κ} (holds : C.holds k) :
    (Activity.done a (k.raze order id)).Safe C k :=
  grounded.after (grounded.remove order id holds) fun holds' => grounded.done holds' a

/-- The end of an instantiation keeps the contract. -/
theorem Grounded.conclude (grounded : C.Grounded) (order : EdgeOrder κ) (id : ClosureId)
    (template : String) (outcome : Except Fault Unit) {k : Kernel κ} (holds : C.holds k) :
    (Activity.done (k.concludeInstantiation order id template outcome).1
      (k.concludeInstantiation order id template outcome).2).Safe C k := by
  cases outcome with
  | error fault =>
    refine grounded.after (grounded.report (.instantiateFailed id template fault) rfl holds)
      fun holds' => ?_
    exact grounded.raze order id _ holds'
  | ok u =>
    simp only [Kernel.concludeInstantiation]
    split
    · next live =>
      refine grounded.after (grounded.announce id template
        (Std.ExtTreeMap.contains_iff_mem.mp live) holds) fun holds' => ?_
      refine grounded.after (grounded.report (.instantiated id template) rfl holds')
        fun holds'' => ?_
      exact grounded.done holds'' _
    · refine grounded.after
        (grounded.report (.destroyedWhileInstantiated id template) rfl holds) fun holds' => ?_
      exact grounded.done holds' _

/-- An instantiation keeps the contract. -/
theorem Grounded.instantiate (grounded : C.Grounded) (order : EdgeOrder κ) (template : String)
    (parent : Option ClosureId) (params : List (String × Value)) {k : Kernel κ}
    (holds : C.holds k) : (k.instantiate order template parent params).Safe C k := by
  rw [Kernel.instantiate_eq]
  cases ht : k.templates.require template with
  | error fault => exact grounded.done holds _
  | ok t =>
    cases hc : k.createClosure template parent with
    | error fault => exact grounded.done holds _
    | ok made =>
      obtain ⟨id, k'⟩ := made
      refine grounded.after (grounded.found params hc holds) fun holds' => ?_
      refine .bind grounded.toOrdered (grounded.wire id t holds') fun outcome k'' holds'' => ?_
      exact grounded.conclude order id template outcome holds''

/-- The call of a call site keeps the contract. -/
theorem Grounded.callSite (grounded : C.Grounded) (order : EdgeOrder κ) (parent : ClosureId)
    (index : Nat) {k : Kernel κ} (holds : C.holds k) :
    (k.callSite order parent index).Safe C k := by
  unfold Kernel.callSite
  cases hs : k.findCallSite parent index with
  | error fault => exact grounded.done holds _
  | ok site =>
    refine .call grounded.toOrdered holds fun r k' hk => ?_
    cases r with
    | error fault => exact grounded.done hk _
    | ok child =>
      refine .bind grounded.toOrdered
        (grounded.reactTo site.binding (.attached parent child) hk) ?_
      intro outcome k'' hk'
      cases outcome with
      | ok u => exact grounded.done hk' _
      | error fault => exact grounded.raze order child _ hk'

/-- The run of a template keeps the contract. -/
theorem Grounded.run (grounded : C.Grounded) (order : EdgeOrder κ) (template : Option String)
    {k : Kernel κ} (holds : C.holds k) : (k.run order template).Safe C k := by
  unfold Kernel.run
  cases hr : k.resolveRun template with
  | error fault => exact grounded.done holds _
  | ok name =>
    refine .call grounded.toOrdered holds fun r k' hk => ?_
    cases r with
    | error fault => exact grounded.done hk _
    | ok root =>
      refine .call grounded.toOrdered hk fun outcome k'' hk' => ?_
      cases outcome with
      | ok report =>
        exact grounded.after (grounded.report (.ran name root report.waves) rfl hk')
          fun hk'' => grounded.done hk'' _
      | error fault =>
        refine grounded.after (grounded.report (.runFailed name root fault) rfl hk')
          fun hk'' => ?_
        exact grounded.raze order root _ hk''

/-- The application of an event keeps the contract. -/
theorem Grounded.applyEvent (grounded : C.Grounded) (order : EdgeOrder κ) (event : Event κ)
    {k : Kernel κ} (holds : C.holds k) : (k.applyEvent order event).Safe C k := by
  cases event with
  | invoke code => exact .react grounded.toOrdered holds fun r k' hk => grounded.done hk r
  | _ =>
    simp only [Kernel.applyEvent]
    split
    · exact grounded.done holds _
    · exact grounded.done holds _
    · next c stands =>
      exact grounded.after (grounded.apply order stands holds) fun hk => grounded.done hk _

/-- The application of events in a row keeps the contract. -/
theorem Receptive.applyEvents (receptive : C.Receptive) (order : EdgeOrder κ)
    (events : List (Event κ)) (applied rejected : Nat) {k : Kernel κ} (holds : C.holds k) :
    (k.applyEvents order events applied rejected).Safe C k := by
  induction events generalizing applied rejected k with
  | nil => exact receptive.done holds _
  | cons event rest ih =>
    refine receptive.after (receptive.applying event holds) fun holds' => ?_
    refine .bind receptive.toOrdered (receptive.applyEvent order event holds') ?_
    intro outcome k' hk
    cases outcome with
    | ok u => exact ih (applied + 1) rejected hk
    | error fault =>
      exact receptive.after (receptive.report (.eventRejected event.tag fault) rfl hk)
        fun hk' => ih applied (rejected + 1) hk'

/-- The intake of outside events keeps the contract. -/
theorem Receptive.drainEvents (receptive : C.Receptive) (order : EdgeOrder κ) {k : Kernel κ}
    (holds : C.holds k) : (k.drainEvents order).Safe C k := by
  unfold Kernel.drainEvents
  split
  · exact receptive.done holds _
  · refine receptive.after (receptive.take holds) fun holds' => ?_
    refine .bind receptive.toOrdered (receptive.applyEvents order _ 0 0 holds') ?_
    rintro ⟨applied, rejected⟩ k' hk
    refine receptive.after (receptive.report (.eventsApplied applied rejected) rfl hk)
      fun hk' => ?_
    refine .call receptive.toOrdered hk' fun r k'' hk'' => ?_
    cases r with
    | ok report => exact receptive.done hk'' _
    | error fault => exact receptive.done hk'' _

/-- A contract that operations and drains keep is kept by every call. -/
theorem Receptive.call (receptive : C.Receptive)
    (drain : ∀ k : Kernel κ, C.holds k → k.drain.Safe C k)
    (order : EdgeOrder κ) (c : Call) {k : Kernel κ} (holds : C.holds k) :
    (c.activity order k).Safe C k := by
  cases c with
  | instantiate template parent params =>
    exact receptive.instantiate order template parent params holds
  | callSite parent index => exact receptive.callSite order parent index holds
  | run template => exact receptive.run order template holds
  | drain => exact drain k holds
  | drainEvents => exact receptive.drainEvents order holds

/-- A contract that operations, commands, probes and drains keep is kept by every run. -/
theorem Receptive.sound (receptive : C.Receptive)
    (command : ∀ (order : EdgeOrder κ) (c : Command κ) k, C.holds k →
      C.Passes k (c.perform order k).2)
    (probe : ∀ (p : Probe) k, C.holds k → C.Passes k (p.perform k).2)
    (drain : ∀ k : Kernel κ, C.holds k → k.drain.Safe C k) : C.Sound where
  toOrdered := receptive.toOrdered
  command := command
  probe := probe
  call order c _ holds := receptive.call drain order c holds

/-- All calls keep the contract if drains do. -/
theorem Stable.call (stable : C.Stable) (drain : ∀ k : Kernel κ, C.holds k → k.drain.Safe C k)
    (order : EdgeOrder κ) (c : Call) {k : Kernel κ} (holds : C.holds k) :
    (c.activity order k).Safe C k :=
  stable.receptive.call drain order c holds

/-- A contract that actions, probes and drains keep is kept by every run. -/
theorem Stable.sound (stable : C.Stable)
    (probe : ∀ (p : Probe) k, C.holds k → C.Passes k (p.perform k).2)
    (drain : ∀ k : Kernel κ, C.holds k → k.drain.Safe C k) : C.Sound :=
  stable.receptive.sound (fun order c _ holds => stable.act order (.command c) holds) probe drain

/-- Actions of waves keep the contract. -/
structure WaveStable (C : Contract κ) : Prop extends C.Ordered where
  /-- Every action of a drain that goes on. -/
  waveAct : ∀ {k k' : Kernel κ}, k.DrainAction k' →
    k'.schedule.draining = k.schedule.draining → C.holds k → C.Passes k k'

/-- Actions of drains keep the contract. -/
structure Drainable (C : Contract κ) : Prop extends C.WaveStable where
  /-- Every action of a drain. -/
  drainAct : ∀ {k k' : Kernel κ}, k.DrainAction k' → C.holds k → C.Passes k k'
  waveAct h _ := drainAct h

/-- All actions keep the contract. -/
structure DrainStable (C : Contract κ) : Prop extends C.Stable, C.Drainable

/-- What comes after an action of a wave is safe from before that action. -/
theorem WaveStable.begin {α : Type} {a : Activity κ α} (stable : C.WaveStable)
    {k k' : Kernel κ} (holds : C.holds k) (h : k.DrainAction k')
    (running : k'.schedule.draining = k.schedule.draining) (rest : C.holds k' → a.Safe C k') :
    a.Safe C k := by
  have acted := stable.waveAct h running holds
  exact (rest acted.holds).earlier stable.toOrdered acted

/-- Dropping what is pending and writing an entry keeps the contract. -/
theorem WaveStable.discard {α : Type} (stable : C.WaveStable) {e : LogEvent}
    (h : e.isOfDrain = true) (a : α) {k : Kernel κ} (holds : C.holds k) :
    (Activity.done a (k.discardPending.log e)).Safe C k := by
  refine stable.begin holds (.reschedule k.schedule.discard (by simp [Schedule.discard])) rfl
    fun holds' => ?_
  exact stable.begin holds' (.note (.logged e) h) rfl fun holds'' => stable.done holds'' a

/-- The delivery of a wave keeps the contract. By induction on its turns. -/
theorem WaveStable.deliver (stable : C.WaveStable) (generation : Nat)
    (wave : List SubscriptionId) (tally : WaveTally) {k : Kernel κ} (holds : C.holds k) :
    (k.deliver generation wave tally).Safe C k := by
  induction wave generalizing tally k with
  | nil => exact stable.done holds _
  | cons id rest ih =>
    simp only [Kernel.deliver]
    split
    · exact stable.begin holds (.note (.logged (.stale id generation)) rfl) rfl fun holds' =>
        ih _ holds'
    · next s code here =>
      let n : Notification := ⟨id, s.source, s.target, generation⟩
      have registered (a : SubscriptionId) (g : Nat)
          (same : TraceEvent.notified id generation = .notified a g) :
          a ∈ k.edges.subscriptions := by
        cases same
        exact Kernel.mem_subscriptions.mpr ⟨s, Kernel.callback_some here⟩
      refine stable.begin holds (.emit (.notified id generation) rfl registered) rfl
        fun holds' => ?_
      refine stable.begin holds' (.note (.started n) rfl) rfl fun holds'' => ?_
      refine .react stable.toOrdered holds'' fun r k' hk => ?_
      cases r with
      | ok u => exact stable.begin hk (.note (.finished n none) rfl) rfl fun hk' => ih _ hk'
      | error fault =>
        refine stable.begin hk (.note (.finished n (some fault)) rfl) rfl fun hk' => ?_
        simp only [Kernel.finishCallback]
        split
        · exact stable.begin hk' (.note (.logged (.callbackFailed id generation fault)) rfl)
            rfl fun hk'' => ih _ hk''
        · exact stable.discard rfl _ hk'

/-- The waves of a drain keep the contract. By induction on how many remain. -/
theorem WaveStable.waves (stable : C.WaveStable) (remaining : Nat) (report : DrainReport)
    {k : Kernel κ} (holds : C.holds k) : (k.waves remaining report).Safe C k := by
  induction remaining generalizing report k with
  | zero =>
    unfold Kernel.waves
    split
    · exact stable.done holds _
    · exact stable.discard rfl _ holds
  | succ remaining ih =>
    unfold Kernel.waves
    split
    · exact stable.done holds _
    · refine stable.begin holds
        (.reschedule k.schedule.takeWave (by simp [Schedule.takeWave])) rfl fun holds' => ?_
      refine stable.begin holds'
        (.note (.waveTaken (k.generation + 1) k.schedule.pending.toList) rfl) rfl
        fun holds'' => ?_
      refine .bind stable.toOrdered (stable.deliver _ _ _ holds'') ?_
      rintro ⟨outcome, tally⟩ k' hk
      cases outcome with
      | error fault => exact stable.done hk _
      | ok u =>
        exact stable.begin hk (.emit (.generationDrained (k.generation + 1) tally.callbacks) rfl
          nofun) rfl fun hk' => ih _ hk'

/-- The beginning of a drain keeps the contract. -/
theorem Drainable.beginDrain (stable : C.Drainable) {k : Kernel κ} (holds : C.holds k) :
    C.Passes k k.beginDrain := by
  have announced := stable.drainAct
    (.emit (.drainStarted k.generation k.schedule.pending.size) rfl nofun) holds
  have marked := stable.drainAct
    (.reschedule { k.schedule with draining := true } (by simp)) announced.holds
  exact stable.passes_trans announced marked

/-- The end of a drain keeps the contract. -/
theorem Drainable.endDrain (stable : C.Drainable) (outcome : Except Fault Unit)
    (report : DrainReport) {k : Kernel κ} (holds : C.holds k) :
    C.Passes k (k.endDrain outcome report) := by
  let idle := k.mapState fun s => { s with schedule := { s.schedule with draining := false } }
  have ended (overrun : Bool) : C.Passes k
      ((idle.emit (.drainFinished report.endGeneration report.waves overrun)).log
        (.drainEnded report overrun)) := by
    have stopped := stable.drainAct
      (.reschedule { k.schedule with draining := false } (by simp)) holds
    have announced := stable.drainAct
      (.emit (.drainFinished report.endGeneration report.waves overrun) rfl nofun) stopped.holds
    have logged := stable.drainAct
      (.note (.logged (.drainEnded report overrun)) rfl) announced.holds
    exact stable.passes_trans stopped (stable.passes_trans announced logged)
  exact ended _

/-- A drain keeps the contract. -/
theorem Drainable.drain (stable : C.Drainable) {k : Kernel κ} (holds : C.holds k) :
    k.drain.Safe C k := by
  unfold Kernel.drain
  split
  · exact stable.done holds _
  · split
    · exact stable.done holds _
    · have begun := stable.beginDrain holds
      refine .earlier stable.toOrdered begun
        (.bind stable.toOrdered (stable.waves _ _ begun.holds) ?_)
      rintro ⟨outcome, report⟩ k' hk
      exact .done (stable.endDrain outcome report hk)

/-- A contract that actions and probes keep is kept by every run. -/
theorem DrainStable.sound (stable : C.DrainStable)
    (probe : ∀ (p : Probe) k, C.holds k → C.Passes k (p.perform k).2) : C.Sound :=
  stable.toStable.sound probe fun _ holds => stable.drain holds

end Contract

end ReactiveKernel
