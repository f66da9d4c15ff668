import Mathlib.Data.Prod.Lex
import ReactiveKernel.Proofs.Effect.Changes
import ReactiveKernel.Proofs.Effect.Issuance
import ReactiveKernel.Proofs.Ledger.Drain
import ReactiveKernel.Proofs.Run.Callback

/-!
# When callbacks start

Callbacks start in ascending order of generation, and of subscription within a generation, in every
run. When one starts, its subscription is registered between two live nodes, and it is told these
and the generation of the wave. So none starts whose subscription, or an end of it, is gone.
-/

namespace ReactiveKernel

variable {κ : Type}

/-- The place of a notification in the order of generations and, within one, of subscriptions. -/
def Notification.rank (n : Notification) : Nat ×ₗ Nat := toLex (n.generation, n.subscription.raw)

/-- Notifications are ranked by generation, and within one by subscription. -/
theorem Notification.rank_lt {m n : Notification} : m.rank < n.rank ↔
    m.generation < n.generation ∨
      m.generation = n.generation ∧ m.subscription.raw < n.subscription.raw :=
  Prod.Lex.toLex_lt_toLex

/-- What a notification is about: a subscription and its two ends. -/
def Notification.Involves (n : Notification) (i : Identity) : Prop :=
  i = .subscription n.subscription ∨ i = n.source.identity ∨ i = n.target.identity

/-- A state backs a notification: its subscription is registered, with this callback and between
these ends, which are live, and the generation is the current one. -/
structure State.Backs (s : State κ) (code : κ) (n : Notification) : Prop where
  /-- The subscription is registered, with this callback and these ends. -/
  registered : ∃ e, s.edges.callback? n.subscription = some (e, code) ∧
    s.edges.subscriptions[n.subscription]? = some e ∧ n.source = e.source ∧ n.target = e.target
  /-- Its source is live. -/
  source : s.contains n.source = true
  /-- Its target is live. -/
  target : s.contains n.target = true
  /-- The generation is the current one. -/
  generation : n.generation = s.generation

/-- The notification of the callback that an entry says has started. -/
def Occurrence.notice? : Occurrence κ → Option Notification
  | .started n => some n
  | _ => none

/-- The notifications of the callbacks that started. -/
def notices (entries : List (Occurrence κ)) : List Notification :=
  entries.filterMap Occurrence.notice?

@[simp] theorem notices_snoc (entries : List (Occurrence κ)) (o : Occurrence κ) :
    notices (entries ++ [o]) = notices entries ++ o.notice?.toList := by
  cases h : o.notice? <;> simp [notices, h]

/-- More entries only add notifications. -/
theorem notices_mono {entries more : List (Occurrence κ)} (h : entries <+: more) :
    (notices entries).Sublist (notices more) := by
  have sublist : entries.Sublist more := h.sublist
  exact sublist.filterMap Occurrence.notice?

/-- The callbacks that started did so in order, and whoever is still to come in the current wave
comes after them. -/
structure Ascends (entries : List (Occurrence κ)) : Prop where
  /-- Each comes after those before it. -/
  order : ((notices entries).map Notification.rank).Pairwise (· < ·)
  /-- None is from a later wave. -/
  current : ∀ n ∈ notices entries, n.generation ≤ (Ledger.of entries).generation
  /-- Those of the current wave come before the turns that are to come. -/
  ahead : ∀ n ∈ notices entries, n.generation = (Ledger.of entries).generation →
    ∀ id ∈ (Ledger.of entries).rest, n.subscription.raw < id.raw
  /-- The turns that are to come are in order. -/
  rest : (Ledger.of entries).rest.Pairwise fun a b => a.raw < b.raw

namespace Ascends

variable {entries : List (Occurrence κ)} {o : Occurrence κ}

/-- An entry that opens no wave and starts no callback, and at most drops turns. -/
theorem still (h : Ascends entries) (silent : o.notice? = none)
    (generation : ((Ledger.of entries).record o).generation = (Ledger.of entries).generation)
    (rest : ((Ledger.of entries).record o).rest.Sublist (Ledger.of entries).rest) :
    Ascends (entries ++ [o]) := by
  have same : notices (entries ++ [o]) = notices entries := by simp [silent]
  refine ⟨?_, ?_, ?_, ?_⟩
  · rw [same]
    exact h.order
  · rw [same, Ledger.of_snoc, generation]
    exact h.current
  · rw [same, Ledger.of_snoc, generation]
    intro n hn now id hid
    exact h.ahead n hn now id (rest.subset hid)
  · rw [Ledger.of_snoc]
    exact h.rest.sublist rest

/-- A new wave. -/
theorem waveTaken {generation : Nat} {wave : List SubscriptionId} (h : Ascends entries)
    (fits : Fits entries (.waveTaken generation wave)) :
    Ascends (entries ++ [.waveTaken generation wave]) := by
  obtain ⟨_, _, next, ascending, _⟩ := fits
  have same : notices (entries ++ [.waveTaken generation wave]) = notices entries := by
    simp [Occurrence.notice?]
  have older (n : Notification) (hn : n ∈ notices entries) : n.generation < generation := by
    have current := h.current n hn
    omega
  refine ⟨?_, ?_, ?_, ?_⟩
  · rw [same]
    exact h.order
  · rw [same, Ledger.of_snoc]
    intro n hn
    exact (older n hn).le
  · rw [same, Ledger.of_snoc]
    intro n hn now
    exact absurd now (older n hn).ne
  · rw [Ledger.of_snoc]
    exact ascending

/-- The start of a callback. -/
theorem started {n : Notification} (h : Ascends entries) (fits : Fits entries (.started n)) :
    Ascends (entries ++ [.started n]) := by
  obtain ⟨now, ⟨rest, turn⟩, _⟩ := fits
  have more : notices (entries ++ [.started n]) = notices entries ++ [n] := by
    simp [Occurrence.notice?]
  have before (m : Notification) (hm : m ∈ notices entries) : m.rank < n.rank := by
    rw [Notification.rank_lt]
    have current := h.current m hm
    rcases Nat.lt_or_eq_of_le current with older | same
    · exact .inl (now ▸ older)
    · exact .inr ⟨same.trans now.symm, h.ahead m hm same n.subscription (by simp [turn])⟩
  have later : ∀ id ∈ rest, n.subscription.raw < id.raw := by
    have ascending := h.rest
    rw [turn, List.pairwise_cons] at ascending
    exact ascending.1
  have left : ((Ledger.of entries).record (.started n : Occurrence κ)).rest = rest := by
    simp [Ledger.record, turn]
  refine ⟨?_, ?_, ?_, ?_⟩
  · rw [more, List.map_append, List.pairwise_append]
    refine ⟨h.order, List.pairwise_singleton _ _, ?_⟩
    intro r hr s hs
    obtain ⟨m, hm, rfl⟩ := List.mem_map.mp hr
    obtain rfl := List.mem_singleton.mp hs
    exact before m hm
  · rw [more, Ledger.of_snoc]
    intro m hm
    rcases List.mem_append.mp hm with old | new
    · exact h.current m old
    · rw [List.mem_singleton.mp new]
      exact now.le
  · rw [more, Ledger.of_snoc, left]
    intro m hm same id hid
    rcases List.mem_append.mp hm with old | new
    · exact h.ahead m old same id (by simp [turn, hid])
    · rw [List.mem_singleton.mp new]
      exact later id hid
  · rw [Ledger.of_snoc, left]
    exact (List.pairwise_cons.mp (turn ▸ h.rest)).2

/-- Callbacks have started in order after an announcement. -/
theorem announced {e : TraceEvent} (h : Ascends entries) :
    Ascends (entries ++ [.announced e]) := by
  have clock : ((Ledger.of entries).announce e).generation = (Ledger.of entries).generation ∧
      ((Ledger.of entries).announce e).rest = (Ledger.of entries).rest := by
    cases e <;> exact ⟨rfl, rfl⟩
  refine h.still rfl clock.1 ?_
  exact clock.2 ▸ List.Sublist.refl _

/-- Callbacks have started in order after a log entry. -/
theorem logged {e : LogEvent} (h : Ascends entries) : Ascends (entries ++ [.logged e]) := by
  cases e with
  | stale id generation => exact h.still rfl rfl (List.tail_sublist _)
  | callbackAborted id generation discarded fault => exact h.still rfl rfl (List.nil_sublist _)
  | _ => exact h.still rfl rfl (List.Sublist.refl _)

end Ascends

/-- In an orderly history the callbacks started in order. -/
theorem Orderly.ascends {entries : List (Occurrence κ)} (h : Orderly entries) :
    Ascends entries := by
  induction h with
  | nil => exact ⟨List.Pairwise.nil, by simp [notices], by simp [notices], List.Pairwise.nil⟩
  | @snoc entries o _ fits ih =>
    cases o with
    | announced e => exact ih.announced
    | logged e => exact ih.logged
    | waveTaken generation wave => exact ih.waveTaken fits
    | started n => exact ih.started fits
    | _ => exact ih.still rfl rfl (List.Sublist.refl _)

/-- What was recorded stays recorded, and what is gone stays gone. -/
def Contract.chronicle (κ : Type) : Contract κ :=
  (recording κ).both ((growth κ).both (consistency κ))

namespace Contract

/-- What was recorded stays recorded in every run. -/
theorem chronicle_sound : (chronicle κ).Sound :=
  recording_sound.both (growth_sound.both consistency_sound)

end Contract

namespace Kernel

open Activity Contract

/-- A callback commences: it is the next one in the history, and it is told what is registered and
the generation of the wave. -/
structure Commences (k₀ : Kernel κ) (code : κ) (n : Notification) (k : Kernel κ) : Prop where
  /-- The journal tells what is registered. -/
  recorded : k.Recorded
  /-- The start is the last entry of the history. -/
  last : ∃ before, k.history = before ++ [.started n] ∧ k₀.history <+: before
  /-- The subscription is registered, with this callback and these ends. -/
  registered : ∃ e, k.edges.callback? n.subscription = some (e, code) ∧ n.source = e.source ∧
    n.target = e.target
  /-- The generation is that of the wave. -/
  generation : n.generation = k.generation

variable {k k₀ : Kernel κ} {g : Nat}

/-- A callback that commences later on commences as well when it is seen from before. -/
theorem commences_backward : Backward (chronicle κ) Commences := by
  intro k₁ k₂ k code n leads h
  obtain ⟨before, history, grows⟩ := h.last
  exact ⟨h.recorded, ⟨before, history, leads.2.1.trans grows⟩, h.registered, h.generation⟩

/-- Control that comes back within a wave finds it on its course. -/
theorem InWave.chronicled {k' : Kernel κ} {rest : List SubscriptionId} (h : k.InWave g rest)
    (back : (chronicle κ).Passes k k') : k'.InWave g rest :=
  h.resume (passes_both.mp back).1

/-- At its turn a registered subscription commences. -/
theorem InWave.commences {id : SubscriptionId} {rest : List SubscriptionId} {e : Subscription}
    {code : κ} (h : k.InWave g (id :: rest)) (here : k.edges.callback? id = some (e, code)) :
    k.Commences code ⟨id, e.source, e.target, g⟩ (k.startCallback ⟨id, e.source, e.target, g⟩) := by
  let n : Notification := ⟨id, e.source, e.target, g⟩
  have started := (h.start here).1
  have history : (k.startCallback n).history = (k.emit (.notified id g)).history ++ [.started n] :=
    history_note _ _
  refine ⟨started.recorded, ⟨_, history, ?_⟩, ⟨e, here, rfl, rfl⟩, started.generation.symm⟩
  rw [history_emit]
  exact List.prefix_append _ _

/-- What a drain does to a kernel is chronicled. -/
theorem DrainAction.chronicled {k' : Kernel κ} (h : k.DrainAction k') :
    (chronicle κ).leads k k' :=
  ⟨trivial, h.history_grows, h.sameLinks.evolves⟩

/-- Callbacks commence as a wave is delivered. By induction on the turns to come. -/
theorem admits_deliver (wave : List SubscriptionId) (tally : WaveTally) (h : k.InWave g wave) :
    (k.deliver g wave tally).Admits (chronicle κ) Commences k := by
  induction wave generalizing tally k with
  | nil => trivial
  | cons id rest ih =>
    simp only [deliver]
    split
    · next gone =>
      have leads := DrainAction.chronicled (k := k) (.note (.logged (.stale id g)) rfl)
      exact (ih _ (h.stale gone)).earlier commences_backward leads
    · next e code here =>
      refine ⟨?_, ?_⟩
      · intro n same
        cases same
        exact h.commences here
      · intro outcome k' back
        have resumed := (h.start here).1.chronicled back
        have finished := (resumed.finish ⟨id, e.source, e.target, g⟩ outcome).1
        cases outcome with
        | ok u =>
          have leads := DrainAction.chronicled (k := k')
            (.note (.finished ⟨id, e.source, e.target, g⟩ none) rfl)
          exact (ih _ finished).earlier commences_backward leads
        | error fault =>
          have leads := DrainAction.chronicled (k := k')
            (.note (.finished ⟨id, e.source, e.target, g⟩ (some fault)) rfl)
          simp only
          split
          · have failed := DrainAction.chronicled
              (k := k'.finishCallback ⟨id, e.source, e.target, g⟩ (.error fault))
              (.note (.logged (.callbackFailed id g fault)) rfl)
            exact (ih _ (finished.failed fault)).earlier commences_backward
              (chronicle_sound.trans leads failed)
          · trivial

/-- A delivered wave keeps the chronicle. -/
theorem chronicle_deliver (wave : List SubscriptionId) (tally : WaveTally)
    (h : k.InWave g wave) : (k.deliver g wave tally).Keeps (chronicle κ) (Delivered g) k := by
  have consistent := h.recorded.consistent
  have recording := recording_deliver wave tally h
  have growth := growth_drainStable.deliver g wave tally (k := k) consistent
  have consistency := consistency_drainStable.deliver g wave tally (k := k) consistent
  exact (recording.both (Activity.Keeps.both growth consistency)).mono fun _ _ both => both.1

/-- The waves of a drain keep the chronicle. -/
theorem chronicle_waves (remaining : Nat) (report : DrainReport) (h : k.InWave g []) :
    (k.waves remaining report).Keeps (chronicle κ) (fun _ k => k.Ending) k := by
  have consistent := h.recorded.consistent
  have recording := recording_waves remaining report h
  have growth := growth_drainStable.waves remaining report (k := k) consistent
  have consistency := consistency_drainStable.waves remaining report (k := k) consistent
  exact (recording.both (Activity.Keeps.both growth consistency)).mono fun _ _ both => both.1

/-- What was recorded stays recorded when a wave is taken. -/
theorem takeWave_chronicled (k : Kernel κ) : (chronicle κ).leads k k.takeWave.2 := by
  have taken := DrainAction.chronicled (k := k)
    (.reschedule k.schedule.takeWave (by simp [Schedule.takeWave]))
  have noted := DrainAction.chronicled
    (k := k.mapState fun s => { s with schedule := s.schedule.takeWave })
    (.note (.waveTaken (k.generation + 1) k.schedule.pending.toList) rfl)
  exact chronicle_sound.trans taken noted

/-- Callbacks commence as waves are delivered. By induction on how many remain. -/
theorem admits_waves (remaining : Nat) (report : DrainReport) (h : k.InWave g []) :
    (k.waves remaining report).Admits (chronicle κ) Commences k := by
  induction remaining generalizing report g k with
  | zero =>
    unfold waves
    split <;> trivial
  | succ remaining ih =>
    unfold waves
    split
    · trivial
    · have taken := h.takeWave
      have same : k.takeWave.2.generation = g + 1 := taken.generation
      simp only [same]
      refine Admits.earlier commences_backward k.takeWave_chronicled ?_
      refine (admits_deliver _ _ taken).bind commences_backward
        ((chronicle_deliver _ _ taken).mono ?_)
      intro result k' delivered
      obtain ⟨outcome, tally⟩ := result
      cases outcome with
      | error fault => trivial
      | ok u =>
        have leads := DrainAction.chronicled (k := k')
          (.emit (.generationDrained (g + 1) tally.callbacks) rfl nofun)
        exact (ih _ (InWave.drained delivered tally.callbacks)).earlier commences_backward leads

/-- A drain starts callbacks only as they commence. -/
theorem admits_drain (h : k.Recorded) : k.drain.Admits (chronicle κ) Commences k := by
  unfold drain
  split
  · trivial
  · next running =>
    have idle : k.schedule.draining = false := Bool.eq_false_iff.mpr running
    split
    · trivial
    · have begun := h.beginDrain idle
      have announced := DrainAction.chronicled (k := k)
        (.emit (.drainStarted k.generation k.schedule.pending.size) rfl nofun)
      have marked := DrainAction.chronicled
        (k := k.emit (.drainStarted k.generation k.schedule.pending.size))
        (.reschedule { k.schedule with draining := true } (by simp))
      refine Admits.earlier commences_backward (chronicle_sound.trans announced marked) ?_
      refine (admits_waves _ _ begun).bind commences_backward ?_
      exact (chronicle_waves _ _ begun).mono fun _ _ _ => trivial

variable {begin a b : Activity κ (Except Fault Unit)} {ns ms : List Notification}

/-- What a path from a new kernel has come to: the callbacks that started are in the history of the
kernel at which control was passed last, and all is recorded there. -/
theorem path_recorded (starts : Starts begin) (path : Activity.Path begin ns a) :
    ∃ k₀ : Kernel κ, (chronicle κ).holds k₀ ∧ ns.Sublist (notices k₀.history) ∧
      a.Keeps (chronicle κ) (fun _ _ => True) k₀ ∧ a.Admits (chronicle κ) Commences k₀ := by
  have sound := chronicle_sound (κ := κ)
  induction path with
  | refl =>
    obtain ⟨settings, templates, p, rfl⟩ := starts
    have consistent := consistent_create settings templates
    have fresh : (chronicle κ).holds (Kernel.create settings templates) :=
      ⟨recorded_create settings templates, consistent, consistent⟩
    refine ⟨_, fresh, List.nil_sublist _, ⟨sound.refl _, fresh, ?_⟩, fun _ _ _ => trivial⟩
    exact fun _ _ _ => ⟨sound.refl _, trivial⟩
  | @tail b c ns path step ih =>
    obtain ⟨k₀, holds, recorded, keeps, admits⟩ := ih
    have calls (order : EdgeOrder κ) (c : Call) (k : Kernel κ) (holds : (chronicle κ).holds k) :
        (c.activity order k).Admits (chronicle κ) Commences k :=
      Call.admits order (admits_drain holds.1) c
    have leads := keeps.leads_kernel
    refine ⟨b.kernel, ?_, ?_, sound.step keeps step,
      admits.step sound commences_backward calls keeps step⟩
    · cases step <;> exact keeps.2.1
    · cases due : b.due? with
      | none =>
        have grown := recorded.trans (notices_mono leads.2.1)
        simpa using grown
      | some n =>
        obtain ⟨code, k, next, rfl⟩ := due_eq_some due
        obtain ⟨before, history, grows⟩ := (admits.1 n rfl).last
        have grown := (recorded.trans (notices_mono grows)).append (List.Sublist.refl [n])
        have same : notices k.history = notices before ++ [n] := by
          rw [history, notices_snoc]
          rfl
        exact same ▸ grown

/-- The state backs the notification of a callback that commences. -/
theorem Commences.backs {code : κ} {n : Notification} (h : k₀.Commences code n k) :
    k.toState.Backs code n := by
  obtain ⟨e, callback, source, target⟩ := h.registered
  have registered := callback_some callback
  have indexed := h.recorded.consistent.indexed
  exact ⟨⟨e, callback, registered, source, target⟩,
    source ▸ indexed.source_live _ e registered, target ▸ indexed.target_live _ e registered,
    h.generation⟩

end Kernel

/-- The identity of a live node is live. -/
theorem State.live_identity {s : State κ} {node : NodeId} (h : s.contains node = true) :
    s.Live node.identity := by
  cases node with
  | datum d => exact Std.ExtTreeMap.mem_iff_contains.mpr h
  | closure c => exact Std.ExtTreeMap.mem_iff_contains.mpr h

/-- What a notification is about is live in a state that backs it. -/
theorem State.Backs.live {s : State κ} {code : κ} {n : Notification} (h : s.Backs code n)
    {i : Identity} (involves : n.Involves i) : s.Live i := by
  rcases involves with rfl | rfl | rfl
  · obtain ⟨e, _, registered, _⟩ := h.registered
    exact Kernel.mem_subscriptions.mpr ⟨e, registered⟩
  · exact live_identity h.source
  · exact live_identity h.target

namespace Kernel

open Activity Contract

variable {begin a b : Activity κ (Except Fault Unit)} {ns ms : List Notification}

/-- A callback that is due in a run comes after those that started, and the state backs it. -/
theorem due_backed (starts : Starts begin) {code : κ} {n : Notification} {k : Kernel κ}
    {next : Except Fault Unit → Kernel κ → Activity κ (Except Fault Unit)}
    (path : Activity.Path begin ns (.react code (.notified n) k next)) :
    (∀ m ∈ ns, m.rank < n.rank) ∧ k.toState.Backs code n := by
  obtain ⟨k₀, _, recorded, _, admits⟩ := path_recorded starts path
  have commences := admits.1 n rfl
  refine ⟨?_, commences.backs⟩
  obtain ⟨before, history, grows⟩ := commences.last
  have order := commences.recorded.orderly.ascends.order
  have split : notices k.history = notices before ++ [n] := by
    rw [history, notices_snoc]
    rfl
  rw [split, List.map_append, List.pairwise_append] at order
  intro m hm
  have earlier : m ∈ notices before := (notices_mono grows).subset (recorded.subset hm)
  exact order.2.2 _ (List.mem_map_of_mem earlier) _ (by simp)

/-- From one moment of a run to a later one, what is gone stays gone. -/
theorem path_evolves (starts : Starts begin) (path : Activity.Path begin ns a)
    (later : Activity.Path a ms b) : a.kernel.toState.Evolves b.kernel.toState := by
  obtain ⟨_, _, _, keeps, _⟩ := path_recorded starts path
  have leads := (chronicle_sound.steps keeps later.steps).leads_kernel
  exact leads.2.2

/-- What is gone at some moment of a run is never what a callback is notified of later. -/
theorem gone_unnotified (starts : Starts begin) (path : Activity.Path begin ns a)
    (later : Activity.Path a ms b) {i : Identity} (given : a.kernel.toState.Given i)
    (gone : ¬ a.kernel.toState.Live i) : ∀ n ∈ ms, ¬ n.Involves i := by
  induction later with
  | refl => simp
  | @tail b c ms later step ih =>
    intro n hn
    rcases List.mem_append.mp hn with old | new
    · exact ih n old
    · have due : b.due? = some n := Option.mem_toList.mp new
      obtain ⟨code, k, next, rfl⟩ := due_eq_some due
      have backs := (due_backed starts (path.trans later)).2
      have evolves := path_evolves starts path later
      intro involves
      exact evolves.dead given gone (backs.live involves)

/-- In every run, whatever host code does, callbacks start in ascending order of generation and
subscription, and in the order of the wave within a generation. Whenever one starts, the state backs
what it is told, and nothing that it is told of was gone at any earlier moment. -/
theorem starts_ordered (starts : Starts begin) (path : Activity.Path begin ns a) :
    (ns.map Notification.rank).Pairwise (· < ·) ∧
    (∀ code n k next, a = .react code (.notified n) k next →
      (∀ m ∈ ns, m.rank < n.rank) ∧ k.toState.Backs code n) ∧
    ∀ ms b, Activity.Path a ms b → ∀ i, a.kernel.toState.Given i → ¬ a.kernel.toState.Live i →
      ∀ n ∈ ms, ¬ n.Involves i := by
  refine ⟨?_, ?_, ?_⟩
  · obtain ⟨k₀, holds, recorded, _⟩ := path_recorded starts path
    have order := holds.1.orderly.ascends.order
    exact order.sublist (recorded.map Notification.rank)
  · intro code n k next same
    subst same
    exact due_backed starts path
  · intro ms b later i given gone
    exact gone_unnotified starts path later given gone

/-- Host code that makes a datum with two subscriptions, which are pending at once, and drains. -/
def pairedScript : Program Unit (Except Fault Unit) :=
  .command (.createDatum "Cell" [] none) fun _ =>
  .command (.subscribe (.datum ⟨0⟩) (.datum ⟨0⟩) .structural ()) fun _ =>
  .command (.subscribe (.datum ⟨0⟩) (.datum ⟨0⟩) .everything ()) fun _ =>
  .call .drain fun _ => .pure (.ok ())

/-- The kernel when this host code calls for the drain. -/
def paired : Kernel Unit :=
  (Kernel.create .standard .empty).performAll .ascending
    [.createDatum "Cell" [] none, .subscribe (.datum ⟨0⟩) (.datum ⟨0⟩) .structural (),
     .subscribe (.datum ⟨0⟩) (.datum ⟨0⟩) .everything ()]

/-- The drain, with its first callback due. -/
def pairedDrain : Activity Unit (Except Fault Unit) :=
  (Call.drain.activity .ascending paired).bind fun _ k => .host (.pure (.ok ())) k .done

/-- The drain of the example is reached before any callback starts. -/
theorem path_pairedDrain :
    Activity.Path (.host pairedScript (Kernel.create .standard .empty) .done) [] pairedDrain := by
  have begun := Activity.Path.refl
    (Activity.host pairedScript (Kernel.create .standard .empty) .done)
  have created := begun.tail (.command .ascending _ _ _ _)
  have first := created.tail (.command .ascending _ _ _ _)
  have second := first.tail (.command .ascending _ _ _ _)
  exact second.tail (.request .ascending _ _ _ _)

/-- The callback of the first subscription starts and ends, and then that of the second is due. -/
theorem starts_ordered_paired :
    Starts (.host pairedScript (Kernel.create .standard .empty) .done) ∧
    Activity.Path (.host pairedScript (Kernel.create .standard .empty) .done)
      [⟨⟨0⟩, .datum ⟨0⟩, .datum ⟨0⟩, 1⟩] pairedDrain.resume ∧
    pairedDrain.resume.due? = some ⟨⟨1⟩, .datum ⟨0⟩, .datum ⟨0⟩, 1⟩ ∧
    pairedDrain.resume.kernel.toState.Backs () ⟨⟨1⟩, .datum ⟨0⟩, .datum ⟨0⟩, 1⟩ := by
  have starts : Starts (.host pairedScript (Kernel.create .standard .empty) .done) :=
    ⟨_, _, _, rfl⟩
  have path := path_pairedDrain.trans
    (path_resume (n := ⟨⟨0⟩, .datum ⟨0⟩, .datum ⟨0⟩, 1⟩) (by decide))
  have due : pairedDrain.resume.due? = some ⟨⟨1⟩, .datum ⟨0⟩, .datum ⟨0⟩, 1⟩ := by decide
  obtain ⟨_, backed, _⟩ := starts_ordered starts path
  obtain ⟨code, k, next, same⟩ := due_eq_some due
  refine ⟨starts, path, due, ?_⟩
  have backs := (backed code _ k next same).2
  rw [same]
  exact backs

end Kernel

end ReactiveKernel
