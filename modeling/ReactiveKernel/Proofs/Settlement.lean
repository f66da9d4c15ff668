import ReactiveKernel.Proofs.Network.Settling

/-!
# Networks settle

A drain of a network ends with all derived fields as they are computed from the others, after no
more waves than the longest chain has members. So whatever a host writes to the other fields, in
whatever order and with drains wherever it likes, the derived fields depend in the end on what was
written last.
-/

namespace ReactiveKernel

variable {κ : Type}

/-- The derived fields of a state are what is computed from the others, nothing else solves the
equations, and nothing is to be done. -/
structure Determined (rule : SubscriptionId → Derivation) (s : State κ) : Prop where
  /-- Nothing is pending. -/
  pending : ∀ id, id ∉ s.schedule.pending
  /-- Every subscription is satisfied. -/
  satisfied : ∀ id ∈ s.edges.subscriptions, (rule id).Satisfied s
  /-- There is no other solution with the same values in the other fields. -/
  unique : ∀ A : Valuation, (∀ id ∈ s.edges.subscriptions, (rule id).Solves A) →
    (∀ n name, ¬ Derived rule s.edges n name → A n name = s.valuation n name) → A = s.valuation

/-- What a host does with a network. -/
inductive Errand where
  /-- Write a field. -/
  | write (node : NodeId) (field : String) (value : Value)
  /-- Drain. -/
  | drain

namespace Errand

/-- A plain value is written, and not to a derived field. -/
def Fits (rule : SubscriptionId → Derivation) (t : EdgeTable κ) : Errand → Prop
  | .write node field value => ¬ Derived rule t node field ∧ value.IsPlain
  | .drain => True

/-- What a field that is not derived reads as afterwards. -/
def result (n : NodeId) (name : String) (old : Value) : Errand → Value
  | .write node field value => if n = node ∧ name = field then value else old
  | .drain => old

/-- What was written last to a field, or else what it read as before. -/
def last (errands : List Errand) (n : NodeId) (name : String) (old : Value) : Value :=
  errands.foldl (result n name) old

/-- Do errands one after another and then drain. -/
def program : List Errand → Program κ (Except Fault Unit)
  | [] => .call .drain fun reply => .pure (reply.map fun _ => ())
  | .write node field value :: rest => .command (.set node field value) fun _ => program rest
  | .drain :: rest => .call .drain fun _ => program rest

end Errand

variable {h : Host κ} {rule : SubscriptionId → Derivation} {s t : State κ} {longest : Nat}

/-- A settled network determines what is derived. -/
theorem Settled.determined (settled : Settled h rule s) (bounded : Bounded rule s.edges longest) :
    Determined rule s :=
  ⟨settled.pending, settled.satisfied, fun _ solves same => bounded.unique solves
    (fun id live => (settled.satisfied id live).solves) same⟩

namespace Kernel

/-- A network outside of a drain in which every subscription is satisfied or pending. -/
structure Ready (h : Host κ) (rule : SubscriptionId → Derivation) (longest : Nat) (k : Kernel κ) :
    Prop where
  /-- Every subscription is satisfied or pending. -/
  settling : Settling h rule k.toState 0 []
  /-- No chain is longer than this. -/
  bounded : Bounded rule k.edges longest
  /-- No drain is running. -/
  idle : k.schedule.draining = false
  /-- A drain may run as many waves as the longest chain has members. -/
  limit : longest ≤ k.settings.waveLimit

variable {k k' : Kernel κ} {node : NodeId} {field : String} {value : Value}

/-- A write from outside calls for the subscriptions that read it. -/
theorem Ready.write (ready : Ready h rule longest k) (w : k.Writes node field value k')
    (free : ¬ Derived rule k.edges node field) (plain : value.IsPlain) :
    Ready h rule longest k' := by
  have settling : Settling h rule k'.toState 0 [] := by
    refine w.settling plain ready.settling ?_ ?_ ?_ ?_
    · intro j live writes
      exact absurd ⟨j, live, writes⟩ free
    · intro j live _
      exact .first live
    · intro j turn
      cases turn
    · intro j turn
      cases turn
  have bounded : Bounded rule k'.edges longest := w.edges.symm ▸ ready.bounded
  have limit : longest ≤ k'.settings.waveLimit := w.settings.symm ▸ ready.limit
  exact ⟨settling, bounded, w.draining.trans ready.idle, limit⟩

/-- A drain returns after no more waves than the longest chain has members. -/
theorem Ready.drain (ready : Ready h rule longest k) : ∃ depth report k',
    (∀ deeper, depth ≤ deeper → (h.engine deeper).call .drain k = some (.ok report, k')) ∧
    report.waves ≤ longest ∧ Ready h rule longest k' ∧ Settled h rule k'.toState ∧
    Rewrites rule k.toState k'.toState := by
  obtain ⟨report, k', ends, count, idle, settled, rewrites⟩ :=
    settles_drain ready.settling ready.bounded ready.idle ready.limit
  obtain ⟨depth, returns⟩ := Host.Ends.call (c := .drain) ends
  have bounded : Bounded rule k'.edges longest := rewrites.edges.symm ▸ ready.bounded
  have limit : longest ≤ k'.settings.waveLimit := rewrites.settings.symm ▸ ready.limit
  exact ⟨depth, report, k', returns, count, ⟨settled.settling 0, bounded, idle, limit⟩, settled,
    rewrites⟩

end Kernel

namespace Errand

/-- What errands and the drain after them come to. -/
structure Outcome (h : Host κ) (rule : SubscriptionId → Derivation) (errands : List Errand)
    (s t : State κ) : Prop where
  /-- The edges are the same. -/
  edges : t.edges = s.edges
  /-- Everything is settled. -/
  settled : Settled h rule t
  /-- A field that is not derived holds what was written last. -/
  reads : ∀ n name, ¬ Derived rule s.edges n name →
    t.get n name = (s.get n name).map (last errands n name)

variable {errands : List Errand}

/-- No errands leave a settled network as it is. -/
theorem Outcome.nil (settled : Settled h rule t) (rewrites : Rewrites rule s t) :
    Outcome h rule [] s t := by
  refine ⟨rewrites.edges, settled, fun n name free => ?_⟩
  rw [State.get_congr (rewrites.other n name free)]
  cases s.get n name <;> rfl

/-- A write comes first, and then the other errands. -/
theorem Outcome.write {k k' : Kernel κ} {node : NodeId} {field : String} {value : Value}
    (w : k.Writes node field value k') (rest : Outcome h rule errands k'.toState t) :
    Outcome h rule (.write node field value :: errands) k.toState t := by
  have edges : k'.edges = k.edges := w.edges
  refine ⟨rest.edges.trans edges, rest.settled, fun n name free => ?_⟩
  rw [rest.reads n name (edges ▸ free), w.get]
  by_cases here : n = node ∧ name = field
  · cases k.get n name <;> simp [here, Except.map, last, result]
  · cases k.get n name <;> simp [here, Except.map, last, result]

/-- A drain comes first, and then the other errands. -/
theorem Outcome.drain {m : State κ} (rewrites : Rewrites rule s m)
    (rest : Outcome h rule errands m t) : Outcome h rule (.drain :: errands) s t := by
  refine ⟨rest.edges.trans rewrites.edges, rest.settled, fun n name free => ?_⟩
  rw [rest.reads n name (rewrites.edges ▸ free), State.get_congr (rewrites.other n name free)]
  rfl

end Errand

namespace Kernel

variable {k : Kernel κ}

/-- Errands and the drain after them return, whatever they are. -/
theorem Ready.errands (ready : Ready h rule longest k) (errands : List Errand)
    (fits : ∀ e ∈ errands, e.Fits rule k.edges) : ∃ depth k',
      (∀ deeper, depth ≤ deeper →
        h.execute deeper (Errand.program errands) k = some (.ok (), k')) ∧
      Errand.Outcome h rule errands k.toState k'.toState := by
  induction errands generalizing k with
  | nil =>
    obtain ⟨depth, report, k', returns, _, _, settled, rewrites⟩ := ready.drain
    refine ⟨depth, k', fun deeper le => ?_, .nil settled rewrites⟩
    simp only [Host.execute, Errand.program, Program.exec, returns deeper le]
    rfl
  | cons e errands ih =>
    have rest : ∀ e ∈ errands, e.Fits rule k.edges := fun e he => fits e (List.mem_cons_of_mem _ he)
    cases e with
    | write node field value =>
      obtain ⟨free, plain⟩ := fits _ List.mem_cons_self
      obtain ⟨writes, _⟩ := perform_set ready.settling.consistent h.order node field plain
      obtain ⟨depth, k', runs, outcome⟩ :=
        ih (ready.write writes free plain) (writes.edges.symm ▸ rest)
      exact ⟨depth, k', fun deeper le => runs deeper le, outcome.write writes⟩
    | drain =>
      obtain ⟨depth, report, m, returns, _, ready', _, rewrites⟩ := ready.drain
      have edges : m.edges = k.edges := rewrites.edges
      obtain ⟨depth', k', runs, outcome⟩ := ih ready' (edges ▸ rest)
      refine ⟨max depth depth', k', fun deeper le => ?_, .drain rewrites outcome⟩
      simp only [Host.execute, Errand.program, Program.exec, returns deeper (by omega)]
      exact runs deeper (by omega)

/-- Take any reachable kernel outside of a drain whose subscriptions make up a network in which no
chain is longer than the limit of waves, and in which every subscription is pending or satisfied. A
drain returns after no more waves than the longest chain has members. It leaves the derived fields
as they follow from the others, and the others as they were. If the host does not only drain, but
also writes to fields that are not derived, then the same is true in the end, with what was written
last in the others. -/
theorem network_settles (reachable : k.Reachable) (idle : k.schedule.draining = false)
    (network : Network h rule k.toState) (bounded : Bounded rule k.edges longest)
    (limit : longest ≤ k.settings.waveLimit)
    (known : ∀ id ∈ k.schedule.pending, id ∈ k.edges.subscriptions)
    (covered : ∀ id ∈ k.edges.subscriptions,
      id ∈ k.schedule.pending ∨ (rule id).Satisfied k.toState) :
    (∃ depth report k', (∀ deeper, depth ≤ deeper →
        (h.engine deeper).call .drain k = some (.ok report, k')) ∧ report.waves ≤ longest ∧
      Determined rule k'.toState ∧ Rewrites rule k.toState k'.toState) ∧
    ∀ errands : List Errand, (∀ e ∈ errands, e.Fits rule k.edges) →
      ∃ depth k', (∀ deeper, depth ≤ deeper →
          h.execute deeper (Errand.program errands) k = some (.ok (), k')) ∧
        Determined rule k'.toState ∧ k'.edges = k.edges ∧
        ∀ n name, ¬ Derived rule k.edges n name →
          k'.get n name = (k.get n name).map (Errand.last errands n name) := by
  have settling : Settling h rule k.toState 0 [] := by
    refine ⟨reachable.consistent, network, ?_, ?_, ?_⟩
    · intro id live
      exact (covered id live).symm.imp_right .inl
    · intro id pending
      exact .first (known id pending)
    · intro id turn
      cases turn
  have ready : Ready h rule longest k := ⟨settling, bounded, idle, limit⟩
  constructor
  · obtain ⟨depth, report, k', returns, count, ready', settled, rewrites⟩ := ready.drain
    exact ⟨depth, report, k', returns, count, settled.determined ready'.bounded, rewrites⟩
  · intro errands fits
    obtain ⟨depth, k', runs, outcome⟩ := ready.errands errands fits
    have bounded' : Bounded rule k'.edges longest := outcome.edges.symm ▸ bounded
    exact ⟨depth, k', runs, outcome.settled.determined bounded', outcome.edges, outcome.reads⟩

/-- A host whose code is derivations to follow. -/
def follower : Host Derivation where
  behave d _ := d.program

/-- A cell is a copy of the cell before it. -/
def copying (id : SubscriptionId) : Derivation :=
  ⟨.datum ⟨id.raw⟩, .key "x", .datum ⟨id.raw + 1⟩, "x", fun inputs => inputs.headD .null⟩

/-- Three cells, the second and the third of which are copies. -/
def copied : Kernel Derivation :=
  (Kernel.create .standard .empty).performAll .ascending
    [.createDatum "Cell" [("x", .int 1)] none, .createDatum "Cell" [] none,
     .createDatum "Cell" [] none,
     .subscribe (.datum ⟨0⟩) (.datum ⟨1⟩) (.key "x") (copying ⟨0⟩),
     .subscribe (.datum ⟨1⟩) (.datum ⟨2⟩) (.key "x") (copying ⟨1⟩)]

/-- Two subscriptions are registered in the example. -/
theorem copied_live (id : SubscriptionId) :
    id ∈ copied.edges.subscriptions ↔ id = ⟨0⟩ ∨ id = ⟨1⟩ := by
  have keys : copied.edges.subscriptions.keys = [⟨0⟩, ⟨1⟩] := by rfl
  rw [← Std.ExtTreeMap.mem_keys, keys]
  simp

/-- The callback of each subscription of the example copies from one cell to the next. -/
theorem copied_callback {id : SubscriptionId} (live : id ∈ copied.edges.subscriptions) :
    copied.edges.callback? id = some
      (⟨.datum ⟨id.raw⟩, .datum ⟨id.raw + 1⟩, .key "x", ⟨id.raw⟩⟩, copying id) := by
  rcases (copied_live id).mp live with rfl | rfl
  · rfl
  · rfl

/-- One copy feeds another if it writes where the other one reads. -/
theorem copying_feeds {i j : SubscriptionId} :
    (copying i).Feeds (copying j) ↔ i.raw + 1 = j.raw := by
  simp [Derivation.Feeds, Derivation.Reads, copying, Selector.names]

/-- The copies make up a network. -/
theorem copied_network : Network follower copying copied.toState := by
  refine ⟨?_, ?_, ?_, ?_, ?_, ?_, ?_, ?_⟩
  · intro id e registered
    have live : id ∈ copied.edges.subscriptions := mem_subscriptions.mpr ⟨e, registered⟩
    cases registered.symm.trans (callback_some (copied_callback live))
    exact ⟨rfl, rfl, rfl⟩
  · intro id live
    trivial
  · intro id e code here
    have live : id ∈ copied.edges.subscriptions := mem_subscriptions.mpr ⟨e, callback_some here⟩
    cases here.symm.trans (copied_callback live)
    exact fun _ _ _ _ => rfl
  · intro id live
    rcases (copied_live id).mp live with rfl | rfl
    · exact ⟨_, rfl⟩
    · exact ⟨_, rfl⟩
  · intro id live
    rcases (copied_live id).mp live with rfl | rfl
    · exact ⟨_, rfl⟩
    · exact ⟨_, rfl⟩
  · intro i _ j _ writes
    have same : j.raw + 1 = i.raw + 1 := DatumId.mk.inj (NodeId.datum.inj writes.1)
    cases i
    cases j
    simp_all
  · intro id live inputs plain
    cases inputs with
    | nil => trivial
    | cons v rest => exact plain v List.mem_cons_self
  · intro id live n name reads
    obtain ⟨rfl, selected⟩ := reads
    cases List.mem_singleton.mp selected
    rcases (copied_live id).mp live with rfl | rfl
    · trivial
    · trivial

/-- Copies feed one another twice at most. -/
theorem copied_bounded : Bounded copying copied.edges 2 := by
  intro chain members feeds
  cases chain with
  | nil => simp
  | cons i chain =>
    cases chain with
    | nil => simp
    | cons j chain =>
      cases chain with
      | nil => simp
      | cons l chain =>
        have first := copying_feeds.mp feeds.rel
        have second := copying_feeds.mp feeds.tail.rel
        rcases (copied_live l).mp (members l (by simp)) with rfl | rfl
        · cases second
        · simp only at second
          omega

/-- The first cell is not derived. -/
theorem copied_free : ¬ Derived copying copied.edges (.datum ⟨0⟩) "x" := by
  intro derived
  obtain ⟨id, _, node, _⟩ := derived
  cases node

/-- The last cell is a copy of the first one if the state is determined. -/
theorem copied_determined {s : State Derivation} {v : Value} (determined : Determined copying s)
    (edges : s.edges = copied.edges) (first : s.get (.datum ⟨0⟩) "x" = .ok v) :
    s.get (.datum ⟨2⟩) "x" = .ok v := by
  have second : s.get (.datum ⟨1⟩) "x" = .ok (s.valuation (.datum ⟨0⟩) "x") :=
    determined.satisfied ⟨0⟩ (edges ▸ (copied_live _).mpr (.inl rfl))
  have third : s.get (.datum ⟨2⟩) "x" = .ok (s.valuation (.datum ⟨1⟩) "x") :=
    determined.satisfied ⟨1⟩ (edges ▸ (copied_live _).mpr (.inr rfl))
  rw [third, State.valuation_of_ok second, State.valuation_of_ok first]

/-- What was in the first cell comes to the third one within two waves. If the first cell is written
twice, it is the second value that is found there in the end. -/
theorem network_settles_copied :
    copied.Reachable ∧ copied.schedule.draining = false ∧
    Network follower copying copied.toState ∧ Bounded copying copied.edges 2 ∧
    2 ≤ copied.settings.waveLimit ∧
    (∀ id ∈ copied.schedule.pending, id ∈ copied.edges.subscriptions) ∧
    (∀ id ∈ copied.edges.subscriptions,
      id ∈ copied.schedule.pending ∨ (copying id).Satisfied copied.toState) ∧
    (∃ depth report k', (follower.engine depth).call .drain copied = some (.ok report, k') ∧
      report.waves ≤ 2 ∧ k'.get (.datum ⟨2⟩) "x" = .ok (.int 1)) ∧
    ∃ depth k', follower.execute depth (Errand.program [.write (.datum ⟨0⟩) "x" (.int 7), .drain,
        .write (.datum ⟨0⟩) "x" (.int 5)]) copied = some (.ok (), k') ∧
      k'.get (.datum ⟨2⟩) "x" = .ok (.int 5) := by
  have reachable : copied.Reachable := reachable_performAll _ _ _ _
  have idle : copied.schedule.draining = false := by decide
  have limit : 2 ≤ copied.settings.waveLimit := by decide
  have pending : copied.schedule.pending.toList = [⟨0⟩, ⟨1⟩] := by rfl
  have known (id : SubscriptionId) :
      id ∈ copied.schedule.pending ↔ id ∈ copied.edges.subscriptions := by
    rw [← Std.ExtTreeSet.mem_toList, pending, copied_live]
    simp
  obtain ⟨⟨depth, report, k', returns, count, determined, rewrites⟩, errands⟩ :=
    network_settles reachable idle copied_network copied_bounded limit (fun id => (known id).mp)
      fun id live => .inl ((known id).mpr live)
  refine ⟨reachable, idle, copied_network, copied_bounded, limit, fun id => (known id).mp,
    fun id live => .inl ((known id).mpr live),
    ⟨depth, report, k', returns depth (Nat.le_refl _), count, ?_⟩, ?_⟩
  · refine copied_determined determined rewrites.edges ?_
    exact (State.get_congr (rewrites.other _ _ copied_free)).trans rfl
  · obtain ⟨depth', m, runs, determined', edges, reads⟩ := errands
      [.write (.datum ⟨0⟩) "x" (.int 7), .drain, .write (.datum ⟨0⟩) "x" (.int 5)]
      (by simp [Errand.Fits, copied_free, Value.IsPlain])
    refine ⟨depth', m, runs depth' (Nat.le_refl _), copied_determined determined' edges ?_⟩
    exact (reads _ _ copied_free).trans rfl

end Kernel

end ReactiveKernel
