import ReactiveKernel.Proofs.Network.Basic
import ReactiveKernel.Proofs.Run.Ending

/-!
# How networks settle

While a drain runs, every subscription of a network is satisfied, is pending, or has its turn to
come in the wave. Each turn keeps this, and what it makes pending is one step deeper than itself.
So there are no more waves than the longest chain has members, and then all are satisfied.
-/

namespace ReactiveKernel

variable {κ : Type}

namespace Kernel

variable {h : Host κ} {rule : SubscriptionId → Derivation} {k k' : Kernel κ} {node n : NodeId}
  {field name : String} {value : Value} {id : SubscriptionId}

/-- A write changes the value of the field alone. -/
theorem Writes.valuation (w : k.Writes node field value k') (n : NodeId) (name : String) :
    k'.toState.valuation n name = k.toState.valuation n name ∨
      (n = node ∧ name = field) ∧ k'.toState.valuation n name = value := by
  have got := w.get n name
  by_cases here : n = node ∧ name = field
  · rw [if_pos here] at got
    cases old : k.get n name with
    | error fault =>
      rw [old] at got
      exact .inl (State.valuation_congr (got.trans old.symm))
    | ok v =>
      rw [old] at got
      exact .inr ⟨here, State.valuation_of_ok got⟩
  · rw [if_neg here] at got
    exact .inl (State.valuation_congr got)

/-- Nodes that can be read before a write can be read after it. -/
theorem Writes.readable (w : k.Writes node field value k') (h : k.toState.Readable n) :
    k'.toState.Readable n := by
  have got := w.get n field
  rw [h.get field] at got
  split at got
  · exact State.readable_of_ok got
  · exact State.readable_of_ok got

/-- A network is a network after a write of a plain value. -/
theorem Writes.network (w : k.Writes node field value k') (plain : value.IsPlain)
    (network : Network h rule k.toState) : Network h rule k'.toState := by
  have edges : k'.edges = k.edges := w.edges
  refine ⟨?_, ?_, ?_, ?_, ?_, ?_, ?_, ?_⟩
  all_goals rw [edges]
  · exact network.edge
  · exact network.named
  · exact network.callback
  · intro id live
    exact w.readable (network.source id live)
  · intro id live
    exact w.readable (network.target id live)
  · exact network.single
  · exact network.closed
  · intro id live n name reads
    rcases w.valuation n name with same | ⟨_, new⟩
    · rw [same]
      exact network.plain id live n name reads
    · rw [new]
      exact plain

/-- After a write to a field that is not its own, a subscription that was satisfied is satisfied or
pending. -/
theorem Writes.satisfied (w : k.Writes node field value k') (network : Network h rule k.toState)
    (live : id ∈ k.edges.subscriptions) (other : ¬ (rule id).Writes node field)
    (satisfied : (rule id).Satisfied k.toState) :
    (rule id).Satisfied k'.toState ∨ id ∈ k'.schedule.pending := by
  have result : k'.get (rule id).target (rule id).field = k.get (rule id).target (rule id).field :=
    (w.get _ _).trans (if_neg fun here => other ⟨here.1.symm, here.2.symm⟩)
  have kept (same : ∀ n name, (rule id).Reads n name →
      k'.toState.valuation n name = k.toState.valuation n name) :
      (rule id).Satisfied k'.toState := by
    rw [Derivation.Satisfied, result, Derivation.value_congr same]
    exact satisfied
  by_cases reads : (rule id).Reads node field
  · rcases w.told with same | told
    · refine .inl (kept fun n name _ => ?_)
      by_cases here : n = node ∧ name = field
      · rw [here.1, here.2]
        exact State.valuation_congr same
      · exact State.valuation_congr ((w.get n name).trans (if_neg here))
    · obtain ⟨e, registered⟩ := mem_subscriptions.mp live
      obtain ⟨source, _, selector⟩ := network.edge id e registered
      have accepts : e.selector.accepts (.field field) = true := by
        rw [selector]
        exact (network.named id live).accepts_field.mpr reads.2
      exact .inr (told id ⟨e, registered, source.trans reads.1.symm, accepts⟩)
  · refine .inl (kept fun n name own => ?_)
    rcases w.valuation n name with same | ⟨here, _⟩
    · exact same
    · rw [here.1, here.2] at own
      exact absurd own reads

/-- What a write makes pending reads what was written. -/
theorem Writes.reads (w : k.Writes node field value k') (network : Network h rule k.toState)
    (pending : id ∈ k'.schedule.pending) : id ∈ k.schedule.pending ∨
      id ∈ k.edges.subscriptions ∧ (rule id).Reads node field := by
  rcases w.fresh id pending with old | ⟨e, registered, source, accepts⟩ | ⟨e, registered, carried⟩
  · exact .inl old
  · have live : id ∈ k.edges.subscriptions := mem_subscriptions.mpr ⟨e, registered⟩
    obtain ⟨from_source, _, selector⟩ := network.edge id e registered
    rw [selector, (network.named id live).accepts_field] at accepts
    exact .inr ⟨live, source.symm.trans from_source, accepts⟩
  · have live : id ∈ k.edges.subscriptions := mem_subscriptions.mpr ⟨e, registered⟩
    obtain ⟨_, _, selector⟩ := network.edge id e registered
    rw [selector] at carried
    exact absurd carried (network.named id live).not_carried

end Kernel

/-- Every subscription is satisfied, is pending, or has its turn to come. What has its turn in a
wave is as deep as the number of the wave says, and what is pending is one step deeper. -/
structure Settling (h : Host κ) (rule : SubscriptionId → Derivation) (s : State κ) (wave : Nat)
    (rest : List SubscriptionId) : Prop where
  /-- The state is consistent. -/
  consistent : s.Consistent
  /-- The subscriptions make up a network. -/
  network : Network h rule s
  /-- Every subscription is satisfied, is pending, or has its turn to come. -/
  covered : ∀ id ∈ s.edges.subscriptions,
    (rule id).Satisfied s ∨ id ∈ s.schedule.pending ∨ id ∈ rest
  /-- What is pending is deep. -/
  pending : ∀ id ∈ s.schedule.pending, Deep rule s.edges (wave + 1) id
  /-- What has its turn to come is deep. -/
  turns : ∀ id ∈ rest, Deep rule s.edges wave id

/-- Every subscription is satisfied, and nothing is pending. -/
structure Settled (h : Host κ) (rule : SubscriptionId → Derivation) (s : State κ) : Prop where
  /-- The state is consistent. -/
  consistent : s.Consistent
  /-- The subscriptions make up a network. -/
  network : Network h rule s
  /-- Every subscription is satisfied. -/
  satisfied : ∀ id ∈ s.edges.subscriptions, (rule id).Satisfied s
  /-- Nothing is pending. -/
  pending : ∀ id, id ∉ s.schedule.pending

/-- No edge, no setting, and no field that is not derived is different. -/
structure Rewrites (rule : SubscriptionId → Derivation) (s t : State κ) : Prop where
  /-- The edges are the same. -/
  edges : t.edges = s.edges
  /-- The settings are the same. -/
  settings : t.settings = s.settings
  /-- The other fields are the same. -/
  other : ∀ n name, ¬ Derived rule s.edges n name → t.field? n name = s.field? n name

section

variable {h : Host κ} {rule : SubscriptionId → Derivation} {s t u : State κ} {wave wave' : Nat}
  {rest rest' : List SubscriptionId} {id : SubscriptionId}

theorem Rewrites.refl (s : State κ) : Rewrites rule s s := ⟨rfl, rfl, fun _ _ _ => rfl⟩

theorem Rewrites.trans (a : Rewrites rule s t) (b : Rewrites rule t u) : Rewrites rule s u := by
  refine ⟨b.edges.trans a.edges, b.settings.trans a.settings, fun n name free => ?_⟩
  have free' : ¬ Derived rule t.edges n name := by
    rw [a.edges]
    exact free
  exact (b.other n name free').trans (a.other n name free)

/-- Nothing but the schedule is different. -/
theorem Settling.reschedule (settling : Settling h rule s wave rest) (schedule : Schedule)
    (covered : ∀ id, id ∈ s.schedule.pending ∨ id ∈ rest → id ∈ schedule.pending ∨ id ∈ rest')
    (pending : ∀ id ∈ schedule.pending, Deep rule s.edges (wave' + 1) id)
    (turns : ∀ id ∈ rest', Deep rule s.edges wave' id) :
    Settling h rule { s with schedule } wave' rest' := by
  have links : s.SameLinks { s with schedule } := ⟨rfl, rfl, fun _ => rfl, fun _ => rfl⟩
  refine ⟨links.consistent settling.consistent fun id hid => ?_, ?_, fun id live => ?_, pending,
    turns⟩
  · obtain ⟨e, registered⟩ := Kernel.mem_subscriptions.mp (pending id hid).live
    exact settling.consistent.issued.registered id e registered
  · have network := settling.network
    exact ⟨network.edge, network.named, network.callback, network.source, network.target,
      network.single, network.closed, network.plain⟩
  · exact (settling.covered id live).imp_right (covered id)

/-- A network is settled when no turn is to come and nothing is pending. -/
theorem Settling.settled (settling : Settling h rule s wave [])
    (nothing : ∀ id, id ∉ s.schedule.pending) : Settled h rule s := by
  refine ⟨settling.consistent, settling.network, fun id live => ?_, nothing⟩
  rcases settling.covered id live with satisfied | pending | turn
  · exact satisfied
  · exact absurd pending (nothing id)
  · cases turn

/-- A settled network settles at any wave. -/
theorem Settled.settling (settled : Settled h rule s) (wave : Nat) : Settling h rule s wave [] :=
  ⟨settled.consistent, settled.network, fun id live => .inl (settled.satisfied id live),
    fun id pending => absurd pending (settled.pending id), fun _ turn => by cases turn⟩

end

namespace Kernel

variable {h : Host κ} {rule : SubscriptionId → Derivation} {k k' : Kernel κ} {wave longest : Nat}
  {rest rest' : List SubscriptionId} {id : SubscriptionId} {node : NodeId} {field : String}
  {value : Value}

/-- A write keeps what is settled, if whoever writes the field is satisfied by it and whoever reads
the field is deep enough. -/
theorem Writes.settling (w : k.Writes node field value k') (plain : value.IsPlain)
    (settling : Settling h rule k.toState wave rest)
    (own : ∀ j ∈ k.edges.subscriptions, (rule j).Writes node field → (rule j).Satisfied k'.toState)
    (readers : ∀ j ∈ k.edges.subscriptions, (rule j).Reads node field →
      Deep rule k.edges (wave + 1) j)
    (turns : ∀ j ∈ rest, j ∈ rest' ∨ (rule j).Writes node field) (later : ∀ j ∈ rest', j ∈ rest) :
    Settling h rule k'.toState wave rest' := by
  have network := settling.network
  have edges : k'.edges = k.edges := w.edges
  refine ⟨w.consistent, w.network plain network, ?_, ?_, ?_⟩
  all_goals rw [edges]
  · intro j live
    by_cases writes : (rule j).Writes node field
    · exact .inl (own j live writes)
    · rcases settling.covered j live with satisfied | pending | turn
      · exact (w.satisfied network live writes satisfied).imp_right .inl
      · exact .inr (.inl (w.pending j pending))
      · exact .inr (.inr ((turns j turn).resolve_right writes))
  · intro j pending
    rcases w.reads network pending with old | ⟨live, reads⟩
    · exact settling.pending j old
    · exact readers j live reads
  · intro j turn
    exact settling.turns j (later j turn)

/-- A subscription has its turn and writes its result. It does not touch its inputs. -/
theorem settling_turn (settling : Settling h rule k.toState wave (id :: rest))
    (bounded : Bounded rule k.edges longest)
    (w : k.Writes (rule id).target (rule id).field ((rule id).value k.toState.valuation) k')
    (plain : ((rule id).value k.toState.valuation).IsPlain) :
    Settling h rule k'.toState wave rest := by
  have network := settling.network
  have deep := settling.turns id List.mem_cons_self
  have live : id ∈ k.edges.subscriptions := deep.live
  refine w.settling plain settling ?_ ?_ ?_ ?_
  · intro j other writes
    cases network.single j other id live writes
    have inputs : (rule id).value k'.toState.valuation = (rule id).value k.toState.valuation := by
      refine Derivation.value_congr fun n name reads => ?_
      rcases w.valuation n name with same | ⟨here, _⟩
      · exact same
      · rw [here.1, here.2] at reads
        exact absurd reads (bounded.irrefl live)
    have written := w.written
    rw [(network.target id live).get] at written
    exact written.trans (congrArg _ inputs.symm)
  · intro j other reads
    exact deep.next reads other
  · intro j turn
    rcases List.mem_cons.mp turn with rfl | later
    · exact .inr ⟨rfl, rfl⟩
    · exact .inl later
  · intro j later
    exact List.mem_cons_of_mem _ later

/-- The inputs of a derivation are read one by one. -/
theorem mapM_get {s : State κ} {n : NodeId} (readable : s.Readable n) (names : List String) :
    names.mapM (s.get n) = .ok (names.map (s.valuation n)) := by
  induction names with
  | nil => rfl
  | cons name names ih =>
    simp [List.mapM_cons, readable.get, ih, bind, Except.bind, pure, Except.pure]

/-- The callback of a subscription comes to its end and has written its result. -/
theorem performs_reacts {code : κ} {d : Derivation} (performs : h.Performs code id d)
    (consistent : k.toState.Consistent) (source : k.toState.Readable d.source)
    (target : k.toState.Readable d.target) (plain : (d.value k.toState.valuation).IsPlain)
    (g : Nat) : ∃ k', h.Reacts code (.notified ⟨id, d.source, d.target, g⟩) k (.ok ()) k' ∧
      k.Writes d.target d.field (d.value k.toState.valuation) k' := by
  obtain ⟨writes, answer⟩ := perform_set consistent h.order d.target d.field plain
  obtain ⟨effective, reply⟩ := answer _ (target.get d.field)
  refine ⟨_, ⟨1, ?_⟩, writes⟩
  have inputs := mapM_get source d.selector.names
  have run := performs g h.order (fun c k => (h.engine 0).call c k) k
  rw [Derivation.value] at reply
  simp only [Derivation.program, Program.exec, inputs, reply] at run
  exact run

/-- A write of a result changes derived fields only. -/
theorem Writes.rewrites (w : k.Writes (rule id).target (rule id).field value k')
    (live : id ∈ k.edges.subscriptions) : Rewrites rule k.toState k'.toState := by
  refine ⟨w.edges, w.settings, fun n name free => w.other n name fun here => ?_⟩
  exact free ⟨id, live, here.1, here.2⟩

/-- The turns of a wave come to their end. -/
theorem settles_deliver (g : Nat) (rest : List SubscriptionId) (tally : WaveTally)
    (settling : Settling h rule k.toState wave rest) (bounded : Bounded rule k.edges longest) :
    ∃ tally' k', h.Ends (k.deliver g rest tally) (.ok (), tally') k' ∧
      Settling h rule k'.toState wave [] ∧ Rewrites rule k.toState k'.toState := by
  induction rest generalizing tally k with
  | nil => exact ⟨tally, k, Host.ends_done _ k, settling, .refl _⟩
  | cons id rest ih =>
    have network := settling.network
    have live : id ∈ k.edges.subscriptions := (settling.turns id List.mem_cons_self).live
    obtain ⟨e, registered⟩ := mem_subscriptions.mp live
    cases here : k.edges.callback? id with
    | none =>
      have gone := settling.consistent.indexed.callback_none here
      rw [registered] at gone
      cases gone
    | some entry =>
      obtain ⟨e', code⟩ := entry
      cases registered.symm.trans (callback_some here)
      obtain ⟨source, target, _⟩ := network.edge id e registered
      have plain : ((rule id).value k.toState.valuation).IsPlain := by
        refine network.closed id live _ fun v hv => ?_
        obtain ⟨name, selected, rfl⟩ := List.mem_map.mp hv
        exact network.plain id live _ name ⟨rfl, selected⟩
      let n : Notification := ⟨id, e.source, e.target, g⟩
      obtain ⟨m, reacts, writes⟩ := performs_reacts (k := k.startCallback n)
        (network.callback id e code here) settling.consistent (network.source id live)
        (network.target id live) plain g
      rw [← source, ← target] at reacts
      have turned : Settling h rule m.toState wave rest :=
        settling_turn (k := k.startCallback n) settling bounded writes plain
      have wrote : Rewrites rule k.toState m.toState := writes.rewrites live
      have bounded' : Bounded rule (m.finishCallback n (.ok ())).edges longest :=
        wrote.edges.symm ▸ bounded
      obtain ⟨tally', k', ends, settled, rewrites⟩ :=
        ih (k := m.finishCallback n (.ok ())) { tally with callbacks := tally.callbacks + 1 }
          turned bounded'
      refine ⟨tally', k', ?_, settled, wrote.trans rewrites⟩
      exact (ends_deliver_cons here).mpr ⟨.ok (), m, reacts, by simp, ends⟩

/-- The wave that is taken is what was pending. -/
theorem settling_takeWave (settling : Settling h rule k.toState wave []) :
    Settling h rule k.takeWave.2.toState (wave + 1) k.schedule.pending.toList := by
  refine settling.reschedule k.schedule.takeWave ?_ ?_ ?_
  · intro id waiting
    rcases waiting with pending | turn
    · exact .inr (Std.ExtTreeSet.mem_toList.mpr pending)
    · cases turn
  · intro id pending
    exact absurd pending Std.ExtTreeSet.not_mem_empty
  · intro id turn
    exact settling.pending id (Std.ExtTreeSet.mem_toList.mp turn)

/-- There is one more wave if something is pending, so some chain is longer. -/
theorem settling_next_wave (settling : Settling h rule k.toState wave [])
    (bounded : Bounded rule k.edges longest) (empty : k.schedule.pending.isEmpty = false) :
    wave + 1 ≤ longest := by
  obtain ⟨id, pending⟩ := SubscriptionSet.isEmpty_eq_false_iff.mp empty
  exact bounded.depth_le (settling.pending id pending)

/-- The waves are over since nothing is pending. -/
theorem settling_exhausted (settling : Settling h rule k.toState wave [])
    (empty : k.schedule.pending.isEmpty = true) (remaining : Nat) (report : DrainReport)
    (within : wave ≤ longest) : ∃ report' k',
      h.Ends (k.waves remaining report) (.ok (), report') k' ∧
      wave + report'.waves ≤ longest + report.waves ∧ Settled h rule k'.toState ∧
      Rewrites rule k.toState k'.toState := by
  have nothing := SubscriptionSet.isEmpty_iff.mp empty
  exact ⟨report, k, (ends_waves_idle empty).mpr ⟨rfl, rfl⟩, by omega, settling.settled nothing,
    .refl _⟩

/-- The waves of a drain come to their end, and there are no more than the longest chain has
members. -/
theorem settles_waves (remaining : Nat) (report : DrainReport)
    (settling : Settling h rule k.toState wave []) (bounded : Bounded rule k.edges longest)
    (enough : longest ≤ wave + remaining) (within : wave ≤ longest) :
    ∃ report' k', h.Ends (k.waves remaining report) (.ok (), report') k' ∧
      wave + report'.waves ≤ longest + report.waves ∧ Settled h rule k'.toState ∧
      Rewrites rule k.toState k'.toState := by
  induction remaining generalizing k wave report with
  | zero =>
    cases empty : k.schedule.pending.isEmpty with
    | true => exact settling_exhausted settling empty 0 report within
    | false =>
      have next := settling_next_wave settling bounded empty
      omega
  | succ remaining ih =>
    cases empty : k.schedule.pending.isEmpty with
    | true => exact settling_exhausted settling empty _ report within
    | false =>
      have next := settling_next_wave settling bounded empty
      let g := k.generation + 1
      obtain ⟨tally, m, ends, delivered, wrote⟩ := settles_deliver g k.schedule.pending.toList
        ⟨0, 0, 0⟩ (settling_takeWave settling) bounded
      have bounded' : Bounded rule m.edges longest := wrote.edges.symm ▸ bounded
      obtain ⟨report', k', ends', count, settled, rewrites⟩ :=
        ih (k := m.emit (.generationDrained g tally.callbacks))
          ((report.openWave g).closeWave tally) delivered bounded' (by omega) next
      have count' : wave + report'.waves ≤ longest + report.waves := by
        have one : ((report.openWave g).closeWave tally).waves = report.waves + 1 := rfl
        omega
      refine ⟨report', k', (ends_waves_succ empty).mpr ⟨tally, m, ends, ends'⟩, count', settled, ?_⟩
      exact Rewrites.trans ⟨wrote.edges, wrote.settings, wrote.other⟩ rewrites

/-- A drain comes to its end, with all subscriptions satisfied. -/
theorem settles_drain (settling : Settling h rule k.toState 0 [])
    (bounded : Bounded rule k.edges longest) (idle : k.schedule.draining = false)
    (limit : longest ≤ k.settings.waveLimit) : ∃ report k', h.Ends k.drain (.ok report) k' ∧
      report.waves ≤ longest ∧ k'.schedule.draining = false ∧ Settled h rule k'.toState ∧
      Rewrites rule k.toState k'.toState := by
  cases empty : k.schedule.pending.isEmpty with
  | true =>
    have nothing := SubscriptionSet.isEmpty_iff.mp empty
    exact ⟨.startingAt k.generation, k, (ends_drain_idle idle empty).mpr ⟨rfl, rfl⟩,
      Nat.zero_le _, idle, settling.settled nothing, .refl _⟩
  | false =>
    have begun : Settling h rule k.beginDrain.toState 0 [] :=
      settling.reschedule _ (fun _ waiting => waiting) settling.pending settling.turns
    obtain ⟨report, m, ends, count, settled, rewrites⟩ := settles_waves k.settings.waveLimit
      (.startingAt k.generation) begun bounded (by omega) (Nat.zero_le _)
    have ended := (settled.settling 0).reschedule { m.schedule with draining := false }
      (fun _ waiting => waiting) (settled.settling 0).pending (settled.settling 0).turns
    have few : report.waves ≤ longest := by
      have none_yet : (DrainReport.startingAt k.generation).waves = 0 := rfl
      omega
    exact ⟨report, m.endDrain (.ok ()) report, (ends_drain_waits idle empty).mpr ⟨m, ends, rfl⟩,
      few, rfl, ended.settled settled.pending, rewrites.edges, rewrites.settings, rewrites.other⟩

end Kernel

end ReactiveKernel
