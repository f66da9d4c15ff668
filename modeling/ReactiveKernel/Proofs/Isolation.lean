import ReactiveKernel.Proofs.Isolation.Tandem

/-!
# Components without a link do not see each other

If no subscription and no ownership leads from one side of the nodes to the other, and callbacks
mind the side of their subscriptions, then a drain does to one side exactly what it would have done
if nothing of the other side had been pending: the nodes of this side end with the same records, and
the same callbacks of this side start in the same order. The drain of this side alone takes no more
waves.
-/

namespace ReactiveKernel

variable {κ : Type} {side : NodeId → Bool}

namespace Kernel

open State

variable {h h' : Host κ} {since k k' m : Kernel κ}

/-- The kernel without the pending subscriptions of the other side. -/
def onlySide (side : NodeId → Bool) (k : Kernel κ) : Kernel κ :=
  k.mapState fun s =>
    { s with schedule := { s.schedule with pending := s.schedule.pending.filter (s.keeps side) } }

variable {remaining : Nat} {report report' : DrainReport}

/-! Waves of the other side alone. -/

/-- The second kernel is still done when nothing happens that this side can see. -/
theorem Rests.unseen (rests : Rests h side since k m) (unseen : k.Unseen h side k') :
    Rests h side since k' m := by
  refine ⟨unseen.divided, unseen.looks.toSameSide.symm.trans rests.same,
    unseen.looks.edges.trans rests.edges, fun id pending => ?_, rests.told.unseen unseen⟩
  refine Bool.eq_false_iff.mpr fun kept => ?_
  have kept' : k.keeps side id = true := (keeps_congr rests.edges id).trans kept
  have before := (unseen.looks.pending id kept').mp pending
  exact Bool.eq_false_iff.mp (rests.others id before) kept

/-- Nobody is notified when a wave is taken. -/
theorem notified_takeWave (k : Kernel κ) : k.takeWave.2.notified = k.notified := by
  rw [takeWave, notified_note]
  exact List.append_nil _

/-- Nothing is pending once a wave was taken. -/
theorem not_mem_takeWave (k : Kernel κ) (id : SubscriptionId) :
    id ∉ k.takeWave.2.schedule.pending :=
  Std.ExtTreeSet.not_mem_empty

/-- The sides are still divided when a wave is taken. -/
theorem Divided.takeWave (divided : k.Divided h side) : k.takeWave.2.Divided h side :=
  divided.reschedule k.schedule.takeWave (fun id pending => absurd pending (k.not_mem_takeWave id))
    rfl

/-- The second kernel is still done when a wave of the other side is taken. -/
theorem Rests.takeWave (rests : Rests h side since k m) :
    Rests h side since k.takeWave.2 m := by
  refine ⟨rests.divided.takeWave, ?_, rests.edges,
    fun id pending => absurd pending (k.not_mem_takeWave id),
    rests.told.of_notified k.notified_takeWave rfl⟩
  refine rests.same.reschedule fun id kept => ?_
  rw [rests.same.pending id kept]
  rw [keeps_congr rests.edges] at kept
  exact iff_of_false (fun pending => Bool.eq_false_iff.mp (rests.others id pending) kept)
    (k.not_mem_takeWave id)

/-- If nothing of this side is pending, the second kernel is done. -/
theorem Mirrors.rests (mirrors : Mirrors h side since k m)
    (idle : ∀ id, id ∉ m.schedule.pending) : Rests h side since k m := by
  refine ⟨mirrors.divided, mirrors.looks.toSameSide, mirrors.edges, fun id pending => ?_,
    mirrors.told⟩
  refine Bool.eq_false_iff.mpr fun kept => ?_
  have kept' : k.keeps side id = true := (mirrors.keeps id).trans kept
  exact idle id ((mirrors.looks.pending id kept').mpr pending)

/-- The waves that are left when this side is done do not touch it. -/
theorem Rests.waves (rests : Rests h side since k m)
    (ends : h.Ends (k.waves remaining report) (.ok (), report') k') :
    Rests h side since k' m ∧ report.waves ≤ report'.waves := by
  induction remaining generalizing k report with
  | zero =>
    obtain ⟨rfl, rfl⟩ := (ends_waves_idle (idle_of_ends_waves_zero ends)).mp ends
    exact ⟨rests, Nat.le_refl _⟩
  | succ remaining ih =>
    cases waits : k.schedule.pending.isEmpty with
    | true =>
      obtain ⟨rfl, rfl⟩ := (ends_waves_idle waits).mp ends
      exact ⟨rests, Nat.le_refl _⟩
    | false =>
      obtain ⟨tally, k₁, delivered, ends⟩ := (ends_waves_succ waits).mp ends
      have taken := rests.takeWave
      have others : ∀ id ∈ k.schedule.pending.toList, k.takeWave.2.keeps side id = false := by
        intro id turn
        rw [keeps_congr taken.edges]
        exact rests.others id (Std.ExtTreeSet.mem_toList.mp turn)
      have unseen := taken.divided.deliver_unseen k.not_mem_takeWave others delivered
      have drained := unseen.trans (Unseen.emit unseen.divided
        (.generationDrained k.takeWave.2.generation tally.callbacks))
      obtain ⟨rests', more⟩ := ih (taken.unseen drained) ends
      exact ⟨rests', (Nat.le_succ _).trans more⟩

/-! Waves of both sides. -/

/-- Of the pending subscriptions the second kernel has those of this side. -/
theorem Mirrors.pending (mirrors : Mirrors h side since k m) :
    m.schedule.pending = k.schedule.pending.filter (since.keeps side) := by
  refine Std.ExtTreeSet.ext_mem fun id => ?_
  rw [SubscriptionSet.mem_filter]
  constructor
  · intro pending
    have kept := mirrors.only id pending
    exact ⟨(mirrors.looks.pending id ((mirrors.keeps id).trans kept)).mp pending, kept⟩
  · rintro ⟨pending, kept⟩
    exact (mirrors.looks.pending id ((mirrors.keeps id).trans kept)).mpr pending

/-- The second kernel still mirrors the first one when both take a wave. -/
theorem Mirrors.takeWave (mirrors : Mirrors h side since k m) :
    Mirrors h side since k.takeWave.2 m.takeWave.2 := by
  have taken := mirrors.reschedule k.schedule.takeWave m.schedule.takeWave
    (fun id pending => absurd pending (k.not_mem_takeWave id))
    (fun id pending => absurd pending (m.not_mem_takeWave id)) (fun _ _ => .rfl)
    (by rw [mirrors.looks.clock]; rfl)
  exact taken.quiet _ _ rfl rfl

/-- If this side waits for a wave, then the first kernel does. -/
theorem Mirrors.waits (mirrors : Mirrors h side since k m)
    (waits : m.schedule.pending.isEmpty = false) : k.schedule.pending.isEmpty = false := by
  obtain ⟨id, pending⟩ := SubscriptionSet.isEmpty_eq_false_iff.mp waits
  rw [mirrors.pending, SubscriptionSet.mem_filter] at pending
  exact SubscriptionSet.isEmpty_eq_false_iff.mpr ⟨id, pending.1⟩

/-- If this side waits for no wave, then those of the first kernel do not touch it. -/
theorem Mirrors.waves_idle (mirrors : Mirrors h side since k m)
    (idle : m.schedule.pending.isEmpty = true)
    (ends : h.Ends (k.waves remaining report) (.ok (), report') k') {summary : DrainReport}
    (fewer : summary.waves ≤ report.waves) :
    ∃ summary' m', h'.Ends (m.waves remaining summary) (.ok (), summary') m' ∧
      Rests h side since k' m' ∧ summary'.waves ≤ report'.waves := by
  obtain ⟨rests, more⟩ := (mirrors.rests (SubscriptionSet.isEmpty_iff.mp idle)).waves ends
  exact ⟨summary, m, (ends_waves_idle idle).mpr ⟨rfl, rfl⟩, rests, fewer.trans more⟩

/-- The waves of the first kernel come to their end in the second one as well, and it takes no more
of them. -/
theorem Mirrors.waves (same : h'.behave = h.behave) (mirrors : Mirrors h side since k m)
    (ends : h.Ends (k.waves remaining report) (.ok (), report') k') {summary : DrainReport}
    (fewer : summary.waves ≤ report.waves) :
    ∃ summary' m', h'.Ends (m.waves remaining summary) (.ok (), summary') m' ∧
      Rests h side since k' m' ∧ summary'.waves ≤ report'.waves := by
  induction remaining generalizing k m report summary with
  | zero =>
    cases waits : m.schedule.pending.isEmpty with
    | true => exact mirrors.waves_idle waits ends fewer
    | false =>
      have idle := idle_of_ends_waves_zero ends
      rw [mirrors.waits waits] at idle
      cases idle
  | succ remaining ih =>
    cases waits : m.schedule.pending.isEmpty with
    | true => exact mirrors.waves_idle waits ends fewer
    | false =>
      obtain ⟨tally, k₁, delivered, ends⟩ := (ends_waves_succ (mirrors.waits waits)).mp ends
      have taken := mirrors.takeWave
      have generation : m.takeWave.2.generation = k.takeWave.2.generation :=
        taken.looks.generation
      have wave : m.schedule.pending.toList =
          k.schedule.pending.toList.filter (since.keeps side) := by
        rw [mirrors.pending]
        exact Std.ExtTreeSet.toList_filter
      obtain ⟨count, m₁, delivered', after⟩ := taken.deliver same delivered ⟨0, 0, 0⟩
      have drained := after.emit (.generationDrained k.takeWave.2.generation tally.callbacks)
        (.generationDrained m.takeWave.2.generation count.callbacks)
      have fewer' : ((summary.openWave m.takeWave.2.generation).closeWave count).waves ≤
          ((report.openWave k.takeWave.2.generation).closeWave tally).waves :=
        Nat.succ_le_succ fewer
      obtain ⟨summary', m', ends', rests, more⟩ := ih drained ends fewer'
      refine ⟨summary', m', (ends_waves_succ waits).mpr ⟨count, m₁, ?_, ends'⟩, rests, more⟩
      rw [wave, generation]
      exact delivered'

/-! The drain. -/

/-- What is pending on one side is what is pending among the subscriptions that this side keeps. -/
theorem mem_onlySide (k : Kernel κ) (id : SubscriptionId) :
    id ∈ (k.onlySide side).schedule.pending ↔ id ∈ k.schedule.pending ∧ k.keeps side id = true :=
  SubscriptionSet.mem_filter

/-- A divided kernel is mirrored by the one without what is pending on the other side. -/
theorem Divided.mirrors (divided : k.Divided h side) :
    Mirrors h side k k (k.onlySide side) := by
  refine ⟨divided, divided.reschedule _ (fun id pending => ((k.mem_onlySide id).mp pending).1) rfl,
    ⟨⟨fun _ _ => rfl, fun _ _ => rfl, fun id kept => ?_, rfl⟩, rfl⟩, rfl,
    fun id pending => ((k.mem_onlySide id).mp pending).2, .refl k⟩
  rw [mem_onlySide]
  exact and_iff_left kept

/-- The second kernel still mirrors the first one when a drain starts in both. -/
theorem Mirrors.beginDrain (mirrors : Mirrors h side since k m) :
    Mirrors h side since k.beginDrain m.beginDrain := by
  have announced := mirrors.emit (.drainStarted k.generation k.schedule.pending.size)
    (.drainStarted m.generation m.schedule.pending.size)
  refine announced.reschedule { k.schedule with draining := true }
    { m.schedule with draining := true } (fun _ pending => pending) (fun _ pending => pending)
    (fun id kept => mirrors.looks.pending id ((mirrors.keeps id).trans kept)) ?_
  rw [mirrors.looks.clock]

/-- Nobody is notified when a drain starts. -/
theorem notified_beginDrain (k : Kernel κ) : k.beginDrain.notified = k.notified :=
  notified_emit k (.drainStarted k.generation k.schedule.pending.size)

/-- Nobody is notified when a drain ends. -/
theorem notified_endDrain (k : Kernel κ) (outcome : Except Fault Unit) (report : DrainReport) :
    (k.endDrain outcome report).notified = k.notified := by
  unfold endDrain
  rw [log, notified_note, notified_emit]
  exact List.append_nil _

/-- A drain of a divided kernel does to this side what a drain does with nothing of the other side
pending. -/
theorem Divided.drain (same : h'.behave = h.behave) (divided : k.Divided h side)
    (ends : h.Ends k.drain (.ok report) k') :
    ∃ summary m', h'.Ends (k.onlySide side).drain (.ok summary) m' ∧
      summary.waves ≤ report.waves ∧ k'.toState.SameSide side m'.toState ∧
      ToldAlike side k k' m' := by
  have ready := ready_of_ends_drain ends
  have ready' : (k.onlySide side).schedule.draining = false := ready
  have mirrors := divided.mirrors
  cases waits' : (k.onlySide side).schedule.pending.isEmpty with
  | true =>
    have idle : h'.Ends (k.onlySide side).drain (.ok (.startingAt k.generation))
        (k.onlySide side) := (ends_drain_idle ready' waits').mpr ⟨rfl, rfl⟩
    refine ⟨_, _, idle, Nat.zero_le _, ?_⟩
    cases waits : k.schedule.pending.isEmpty with
    | true =>
      obtain ⟨_, rfl⟩ := (ends_drain_idle ready waits).mp ends
      exact ⟨mirrors.looks.toSameSide, mirrors.told⟩
    | false =>
      obtain ⟨k₁, waved, rfl⟩ := (ends_drain_waits ready waits).mp ends
      have begun := mirrors.beginDrain.rests (SubscriptionSet.isEmpty_iff.mp waits')
      have rests := (begun.waves waved).1
      refine ⟨rests.same.reschedule fun id kept => rests.same.pending id kept, ?_⟩
      exact rests.told.of_notified (notified_endDrain _ _ _) (notified_beginDrain _).symm
  | false =>
    obtain ⟨k₁, waved, rfl⟩ := (ends_drain_waits ready (mirrors.waits waits')).mp ends
    obtain ⟨summary, m₁, waved', rests, fewer⟩ :=
      mirrors.beginDrain.waves same waved (Nat.le_refl _)
    refine ⟨summary, _, (ends_drain_waits ready' waits').mpr ⟨m₁, waved', rfl⟩, fewer, ?_, ?_⟩
    · exact rests.same.reschedule fun id kept => rests.same.pending id kept
    · exact rests.told.of_notified (notified_endDrain _ _ _) (notified_endDrain _ _ _)

/-- If no link leads from one side to the other and callbacks mind the side of their subscriptions,
then a drain that succeeds does to the nodes of one side what it would have done with nothing of the
other side pending. Such a drain succeeds too, takes no more waves, and starts the same callbacks of
this side, with the same notifications and in the same order. -/
theorem sides_isolated (same : h'.behave = h.behave) (reachable : k.Reachable)
    (split : k.toState.Split side) (heeds : h.Heeds side k.edges) {depth : Nat}
    (drained : (h.engine depth).call .drain k = some (.ok report, k')) :
    ∃ depth' summary m', (∀ deeper, depth' ≤ deeper →
        (h'.engine deeper).call .drain (k.onlySide side) = some (.ok summary, m')) ∧
      summary.waves ≤ report.waves ∧ k'.toState.SameSide side m'.toState ∧
      ∃ ns, k'.notified = k.notified ++ ns ∧
        m'.notified = k.notified ++ ns.filter fun n => side n.source := by
  have divided : k.Divided h side := ⟨reachable.consistent, split, heeds⟩
  have ends : h.Ends k.drain (.ok report) k' := by
    cases depth with
    | zero => cases drained
    | succ depth => exact ⟨depth, drained⟩
  obtain ⟨summary, m', ends', fewer, sameSide, told⟩ := divided.drain same ends
  obtain ⟨depth', returns⟩ := Host.Ends.call (c := .drain) ends'
  exact ⟨depth', summary, m', returns, fewer, sameSide, told⟩

/-- A host whose code is a field, to which the field `open` of the target is copied when the code is
notified. -/
def duplicating : Host String where
  behave
    | field, .notified n => .inspect fun s =>
        .command (.set n.target field ((s.get n.target "open").toOption.getD .null)) fun _ =>
          .pure (.ok ())
    | _, _ => .pure (.ok ())

/-- The callbacks of the example mind the side on which their subscriptions start. -/
theorem duplicating_heeds {s : State String} (split : s.Split side) :
    duplicating.Heeds side s.edges := by
  intro id e code generation here
  have mine : (side e.target == side e.source) = true :=
    beq_iff_eq.mpr (split.subscriptions id e (callback_some here))
  refine ⟨fun s t looks => ?_, fun s => ⟨⟨e.target, rfl, mine⟩, fun _ => trivial⟩⟩
  have same : t.get e.target "open" = s.get e.target "open" := looks.get mine "open"
  dsimp only
  rw [same]

/-- Two datums without a link between them. A change of the first one sets one field there, and a
change of the second one sets two fields, one after the other. -/
def panes : Kernel String :=
  (Kernel.create .standard .empty).performAll .ascending
    [.createDatum "Pane" [] none, .createDatum "Pane" [] none,
     .subscribe (.datum ⟨0⟩) (.datum ⟨0⟩) (.key "open") "shown",
     .subscribe (.datum ⟨1⟩) (.datum ⟨1⟩) (.key "open") "loaded",
     .subscribe (.datum ⟨1⟩) (.datum ⟨1⟩) (.key "loaded") "shown",
     .set (.datum ⟨0⟩) "open" (.bool true), .set (.datum ⟨1⟩) "open" (.bool true)]

/-- The side of the first one. -/
def firstPane (node : NodeId) : Bool := node == .datum ⟨0⟩

/-- Of the three pending subscriptions the first one is on the side of the first datum. -/
theorem onlySide_panes : panes.onlySide firstPane = panes.mapState fun s =>
    { s with schedule := { s.schedule with pending := (∅ : SubscriptionSet).insert ⟨0⟩ } } := by
  have waiting : panes.schedule.pending.toList = [⟨0⟩, ⟨1⟩, ⟨2⟩] := by decide
  have kept : panes.schedule.pending.filter (panes.keeps firstPane) =
      (∅ : SubscriptionSet).insert ⟨0⟩ := by
    refine Std.ExtTreeSet.ext_mem fun id => ?_
    rw [SubscriptionSet.mem_filter, ← Std.ExtTreeSet.mem_toList, waiting]
    constructor
    · rintro ⟨pending, own⟩
      simp only [List.mem_cons, List.not_mem_nil, or_false] at pending
      rcases pending with rfl | rfl | rfl
      · decide
      · cases own
      · cases own
    · intro first
      have here : ⟨0⟩ = id := by simpa using first
      subst here
      decide
  simp only [onlySide, mapState, kept]

/-- A drain whose outcome has so many waves has returned a report that counts them. -/
theorem returned_of_waves {run : Run κ DrainReport} {n : Nat}
    (waves : run.map (fun r => r.1.map DrainReport.waves) = some (.ok n)) :
    ∃ report k', run = some (.ok report, k') ∧ report.waves = n := by
  obtain ⟨⟨outcome, k'⟩, returned, waves⟩ := Option.map_eq_some_iff.mp waves
  cases outcome with
  | error fault => cases waves
  | ok report => exact ⟨report, k', returned, Except.ok.inj waves⟩

/-- Together the two take two waves. The first one alone takes one, and ends in the same way. -/
theorem sides_isolated_panes :
    panes.Reachable ∧ panes.toState.Split firstPane ∧ duplicating.Heeds firstPane panes.edges ∧
    ∃ report k' summary m',
      (duplicating.engine 2).call .drain panes = some (.ok report, k') ∧ report.waves = 2 ∧
      (duplicating.engine 2).call .drain (panes.onlySide firstPane) = some (.ok summary, m') ∧
      summary.waves = 1 ∧ k'.toState.SameSide firstPane m'.toState ∧
      m'.notified = k'.notified.filter fun n => firstPane n.source := by
  have reachable : panes.Reachable := reachable_performAll _ _ _ _
  have split : panes.toState.Split firstPane := by decide
  have heeds := duplicating_heeds split
  obtain ⟨report, k', called, both⟩ : ∃ report k',
      (duplicating.engine 2).call .drain panes = some (.ok report, k') ∧ report.waves = 2 :=
    returned_of_waves (by decide +kernel)
  obtain ⟨summary, m', called', one⟩ : ∃ summary m',
      (duplicating.engine 2).call .drain (panes.onlySide firstPane) = some (.ok summary, m') ∧
        summary.waves = 1 := by
    rw [onlySide_panes]
    exact returned_of_waves (by decide +kernel)
  obtain ⟨depth, _, _, returns, _, same, ns, now, now'⟩ :=
    sides_isolated rfl reachable split heeds called
  have deep := returns (max depth 2) (Nat.le_max_left _ _)
  have shallow := (duplicating.engine_extends (Nat.le_max_right depth 2)).call _ _ _ called'
  cases shallow.symm.trans deep
  have fresh : panes.notified = [] := by decide
  rw [fresh, List.nil_append] at now now'
  exact ⟨reachable, split, heeds, report, k', summary, m', called, both, called', one, same,
    now ▸ now'⟩

end Kernel

end ReactiveKernel
