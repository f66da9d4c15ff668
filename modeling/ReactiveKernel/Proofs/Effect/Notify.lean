import ReactiveKernel.Proofs.Effect.History
import ReactiveKernel.Proofs.State.Invariant

/-!
# What a delivered change does

Delivering a change makes subscriptions pending and does nothing else to the schedule or to any
record, except that a change carried to an owner counts in its carried revision. Which
subscriptions become pending is decided by the table of edges alone.
-/

namespace ReactiveKernel

variable {κ : Type}

/-- The state with another set of pending subscriptions. -/
def State.withPending (s : State κ) (pending : SubscriptionSet) : State κ :=
  { s with schedule := { s.schedule with pending } }

/-- A registered subscription starts at a node and its selector matches a change. -/
def State.Matches (s : State κ) (node : NodeId) (change : Change) (id : SubscriptionId) : Prop :=
  ∃ e, s.edges.subscriptions[id]? = some e ∧ e.source = node ∧ e.selector.accepts change = true

/-- A datum is owned by a closure. -/
def State.Owns (s : State κ) (c : ClosureId) (node : NodeId) : Prop :=
  ∃ d x, node = .datum d ∧ s.datums[d]? = some x ∧ x.owner = some c

/-- A change of a node reaches a subscription, at the node itself or carried to the owner. -/
def State.Hears (s : State κ) (node : NodeId) (change : Change) (id : SubscriptionId) : Prop :=
  s.Matches node change id ∨ ∃ c, s.Owns c node ∧ s.Matches (.closure c) .carried id

namespace Kernel

variable {k : Kernel κ} {order : EdgeOrder κ}

/-- A notification changes the pending set at most. -/
theorem notifyOne_toState (source : NodeId) (change : Change) (k : Kernel κ)
    (id : SubscriptionId) : (notifyOne source change k id).toState =
      k.toState.withPending (notifyOne source change k id).schedule.pending := by
  unfold notifyOne
  split
  · rfl
  · split <;> rfl

/-- A subscription is pending after a notification if it was, or if it is the notified one and its
selector accepts the change. -/
theorem mem_pending_notifyOne {source : NodeId} {change : Change} {a id : SubscriptionId} :
    id ∈ (notifyOne source change k a).schedule.pending ↔ id ∈ k.schedule.pending ∨ id = a ∧
      ∃ e, k.edges.subscriptions[a]? = some e ∧ e.selector.accepts change = true := by
  unfold notifyOne
  cases ha : k.edges.subscriptions[a]? with
  | none => simp
  | some e =>
    by_cases accepts : e.selector.accepts change = true
    · by_cases pending : k.schedule.pending.contains a = true
      · have member : a ∈ k.schedule.pending := Std.ExtTreeSet.contains_iff_mem.mp pending
        simp only [accepts, pending, Bool.not_true, Bool.and_false, Bool.false_eq_true, if_false]
        constructor
        · exact .inl
        · rintro (h | ⟨rfl, _⟩)
          · exact h
          · exact member
      · simp only [accepts, pending, Bool.not_false, Bool.and_self, if_true, toState_log,
          toState_mapState, Schedule.enqueue, Std.ExtTreeSet.mem_insert,
          Std.LawfulEqCmp.compare_eq_iff_eq, Option.some.injEq, exists_eq_left', and_true]
        rw [or_comm, @eq_comm _ a id]
    · simp [accepts]

/-- A notification does not add to the history. -/
theorem history_notifyOne (source : NodeId) (change : Change) (k : Kernel κ)
    (id : SubscriptionId) : (notifyOne source change k id).history = k.history := by
  unfold notifyOne
  split
  · rfl
  · split
    · simp [history_log, LogEvent.isOfDrain]
    · rfl

/-- Delivering a change along a list of subscriptions. -/
theorem toState_notifyAll (source : NodeId) (change : Change) (k : Kernel κ)
    (ids : List SubscriptionId) : (ids.foldl (notifyOne source change) k).toState =
      k.toState.withPending (ids.foldl (notifyOne source change) k).schedule.pending := by
  induction ids generalizing k with
  | nil => rfl
  | cons a ids ih =>
    rw [List.foldl_cons, ih, notifyOne_toState]
    rfl

/-- A subscription is pending after notifications if it was, or if it is among the notified ones and
its selector accepts the change. -/
theorem mem_pending_notifyAll {source : NodeId} {change : Change} {id : SubscriptionId}
    {ids : List SubscriptionId} :
    id ∈ (ids.foldl (notifyOne source change) k).schedule.pending ↔
      id ∈ k.schedule.pending ∨ id ∈ ids ∧
        ∃ e, k.edges.subscriptions[id]? = some e ∧ e.selector.accepts change = true := by
  induction ids generalizing k with
  | nil => simp
  | cons a ids ih =>
    have table : (notifyOne source change k a).edges = k.edges := by
      rw [notifyOne_toState]
      rfl
    rw [List.foldl_cons, ih, mem_pending_notifyOne, table, List.mem_cons, or_assoc]
    refine or_congr_right ?_
    constructor
    · rintro (⟨rfl, h⟩ | ⟨h, h'⟩)
      · exact ⟨.inl rfl, h⟩
      · exact ⟨.inr h, h'⟩
    · rintro ⟨rfl | h, h'⟩
      · exact .inl ⟨rfl, h'⟩
      · exact .inr ⟨h, h'⟩

/-- Notifications do not add to the history. -/
theorem history_notifyAll (source : NodeId) (change : Change) (k : Kernel κ)
    (ids : List SubscriptionId) :
    (ids.foldl (notifyOne source change) k).history = k.history := by
  induction ids generalizing k with
  | nil => rfl
  | cons a ids ih => rw [List.foldl_cons, ih, history_notifyOne]

/-- Delivering a change makes subscriptions pending and nothing else. -/
theorem toState_notify (k : Kernel κ) (order : EdgeOrder κ) (source : NodeId) (change : Change) :
    (k.notify order source change).toState =
      k.toState.withPending (k.notify order source change).schedule.pending :=
  toState_notifyAll source change (k.note (.delivered source change)) _

/-- The subscriptions that a change makes pending are those that it matches. -/
theorem mem_pending_notify (order : EdgeOrder κ) (indexed : k.toState.EdgesIndexed)
    (source : NodeId) (change : Change) (id : SubscriptionId) :
    id ∈ (k.notify order source change).schedule.pending ↔
      id ∈ k.schedule.pending ∨ k.toState.Matches source change id := by
  rw [notify, mem_pending_notifyAll, mem_walk, indexed.outgoing]
  refine or_congr_right ?_
  constructor
  · rintro ⟨⟨e, he, starts⟩, e', he', accepts⟩
    rw [toState_note, he] at he'
    cases he'
    exact ⟨e, he, starts, accepts⟩
  · rintro ⟨e, he, starts, accepts⟩
    exact ⟨⟨e, he, starts⟩, e, he, accepts⟩

/-- The notifications of a change do not add to the history. -/
theorem history_notify (k : Kernel κ) (order : EdgeOrder κ) (source : NodeId) (change : Change) :
    (k.notify order source change).history = k.history := by
  rw [notify, history_notifyAll, history_note]
  simp [Occurrence.isQuiet]

end Kernel

namespace State

/-- The generation of the last change of a node, if it is live. -/
def stamp? (s : State κ) : NodeId → Option Nat
  | .datum d => (s.datums[d]?).map Datum.setGeneration
  | .closure c => (s.closures[c]?).map Closure.setGeneration

/-- The second state differs from the first one in contents, revisions and the pending set at
most. -/
structure SameStamps (s t : State κ) : Prop extends s.SameLinks t where
  /-- No change was stamped. -/
  stamps : ∀ node, t.stamp? node = s.stamp? node
  /-- The settings are the same. -/
  settings : t.settings = s.settings
  /-- No wave was taken. -/
  generation : t.schedule.generation = s.schedule.generation
  /-- No drain has started or ended. -/
  draining : t.schedule.draining = s.schedule.draining

variable {s t u : State κ}

/-- The pending set has no part in stamps. -/
theorem SameStamps.withPending (s : State κ) (p : SubscriptionSet) :
    s.SameStamps (s.withPending p) :=
  ⟨⟨rfl, rfl, fun _ => rfl, fun _ => rfl⟩, fun _ => rfl, rfl, rfl, rfl⟩

theorem SameLinks.trans (h : s.SameLinks t) (h' : t.SameLinks u) : s.SameLinks u :=
  ⟨h'.counters.trans h.counters, h'.edges.trans h.edges,
    fun d => (h'.datums d).trans (h.datums d), fun c => (h'.closures c).trans (h.closures c)⟩

theorem SameStamps.refl (s : State κ) : s.SameStamps s :=
  ⟨⟨rfl, rfl, fun _ => rfl, fun _ => rfl⟩, fun _ => rfl, rfl, rfl, rfl⟩

theorem SameStamps.trans (h : s.SameStamps t) (h' : t.SameStamps u) : s.SameStamps u :=
  ⟨h.toSameLinks.trans h'.toSameLinks, fun node => (h'.stamps node).trans (h.stamps node),
    h'.settings.trans h.settings, h'.generation.trans h.generation, h'.draining.trans h.draining⟩

/-- Whether a subscription matches a change is determined by links. -/
theorem SameLinks.matches (h : s.SameLinks t) (node : NodeId) (change : Change)
    (id : SubscriptionId) : t.Matches node change id ↔ s.Matches node change id := by
  rw [Matches, Matches, h.edges]

/-- Whoever owns a datum still does where the tree is the same. -/
theorem SameTree.owns (h : s.SameTree t) {c : ClosureId} {node : NodeId} (owns : s.Owns c node) :
    t.Owns c node := by
  obtain ⟨d, x, rfl, hx, owner⟩ := owns
  obtain ⟨y, hy, same⟩ := h.symm.datum hx
  exact ⟨d, y, rfl, hy, same ▸ owner⟩

/-- Whether a change reaches a subscription is determined by links. -/
theorem SameLinks.hears (h : s.SameLinks t) (node : NodeId) (change : Change)
    (id : SubscriptionId) : t.Hears node change id ↔ s.Hears node change id := by
  simp only [Hears, h.matches]
  refine or_congr_right (exists_congr fun c => and_congr_left fun _ => ?_)
  exact ⟨h.tree.symm.owns, h.tree.owns⟩

/-- A change of a closure is heard at the closure only. -/
theorem hears_closure {c : ClosureId} {change : Change} {id : SubscriptionId} :
    s.Hears (.closure c) change id ↔ s.Matches (.closure c) change id := by
  have unowned (o : ClosureId) : ¬ s.Owns o (.closure c) := by
    rintro ⟨_, _, eq, _⟩
    cases eq
  simp [Hears, unowned]

/-! Replacing the record of a node. -/

/-- A record of a datum that is put into the table is found there, and all others stay as they are.
-/
theorem getElem?_datums_putDatum (s : State κ) (d : DatumId) (y : Datum) (a : DatumId) :
    (s.putDatum d y).datums[a]? = if d = a then some y else s.datums[a]? := by
  simp [putDatum, Std.ExtTreeMap.getElem?_insert]

/-- A record of a closure that is put into the table is found there, and all others stay as they
are. -/
theorem getElem?_closures_putClosure (s : State κ) (c : ClosureId) (y : Closure) (b : ClosureId) :
    (s.putClosure c y).closures[b]? = if c = b then some y else s.closures[b]? := by
  simp [putClosure, Std.ExtTreeMap.getElem?_insert]

/-- A record of a datum brings its stamp, and all other stamps stay as they are. -/
theorem stamp?_putDatum (s : State κ) (d : DatumId) (y : Datum) (node : NodeId) :
    (s.putDatum d y).stamp? node =
      if node = .datum d then some y.setGeneration else s.stamp? node := by
  cases node with
  | datum a =>
    simp only [stamp?, getElem?_datums_putDatum, NodeId.datum.injEq, @eq_comm _ a d]
    by_cases h : d = a <;> simp [h]
  | closure c =>
    rw [if_neg NodeId.noConfusion]
    rfl

/-- A record of a closure brings its stamp, and all other stamps stay as they are. -/
theorem stamp?_putClosure (s : State κ) (c : ClosureId) (y : Closure) (node : NodeId) :
    (s.putClosure c y).stamp? node =
      if node = .closure c then some y.setGeneration else s.stamp? node := by
  cases node with
  | datum d =>
    rw [if_neg NodeId.noConfusion]
    rfl
  | closure b =>
    simp only [stamp?, getElem?_closures_putClosure, NodeId.closure.injEq, @eq_comm _ b c]
    by_cases h : c = b <;> simp [h]

/-- A record of a live datum with the same links leaves all links alone. -/
theorem SameLinks.putDatum {d : DatumId} {x y : Datum} (hd : s.datums[d]? = some x)
    (links : y.links = x.links) : s.SameLinks (s.putDatum d y) := by
  refine ⟨rfl, rfl, fun a => ?_, fun _ => rfl⟩
  rw [getElem?_datums_putDatum]
  by_cases h : d = a
  · subst h
    simp [hd, links]
  · simp [h]

/-- A record of a live closure with the same links leaves all links alone. -/
theorem SameLinks.putClosure {c : ClosureId} {x y : Closure} (hc : s.closures[c]? = some x)
    (links : y.links = x.links) : s.SameLinks (s.putClosure c y) := by
  refine ⟨rfl, rfl, fun _ => rfl, fun b => ?_⟩
  rw [getElem?_closures_putClosure]
  by_cases h : c = b
  · subst h
    simp [hc, links]
  · simp [h]

/-- Replacing the record of a closure by one with the same links and stamp. -/
theorem SameStamps.putClosure {c : ClosureId} {x y : Closure} (hc : s.closures[c]? = some x)
    (links : y.links = x.links) (stamp : y.setGeneration = x.setGeneration) :
    s.SameStamps (s.putClosure c y) := by
  refine ⟨.putClosure hc links, fun node => ?_, rfl, rfl, rfl⟩
  rw [stamp?_putClosure]
  by_cases h : node = .closure c
  · subst h
    simp [stamp?, hc, stamp]
  · simp [h]

end State

namespace Kernel

open State

variable {k : Kernel κ} {order : EdgeOrder κ}

/-- The notifications of a change leave stamps alone. -/
theorem sameStamps_notify (k : Kernel κ) (order : EdgeOrder κ) (source : NodeId)
    (change : Change) : k.toState.SameStamps (k.notify order source change).toState := by
  rw [toState_notify]
  exact .withPending _ _

/-- A change that is carried to a closure is delivered there. -/
theorem carry_spec (order : EdgeOrder κ) (indexed : k.toState.EdgesIndexed) (c : ClosureId) :
    k.toState.SameStamps (k.carry order c).toState ∧
    (∀ id, id ∈ (k.carry order c).schedule.pending ↔
      id ∈ k.schedule.pending ∨ k.toState.Matches (.closure c) .carried id) ∧
    (k.carry order c).history = k.history := by
  unfold carry
  cases hc : k.closures[c]? with
  | none =>
    refine ⟨.refl _, fun id => ?_, rfl⟩
    have unheard : ¬ k.toState.Matches (.closure c) .carried id := by
      rintro ⟨e, he, starts, _⟩
      have live := indexed.source_live id e he
      obtain ⟨x, hx⟩ := contains_closure.mp (starts ▸ live)
      rw [hc] at hx
      cases hx
    simp [unheard]
  | some x =>
    let bumped := k.mapState (·.putClosure c { x with revisions := x.revisions.bumpCarried })
    have same : k.toState.SameStamps bumped.toState := .putClosure hc rfl rfl
    refine ⟨same.trans (bumped.sameStamps_notify order _ _), fun id => ?_, ?_⟩
    · have heard := mem_pending_notify order (same.edgesIndexed indexed) (.closure c) .carried id
      rw [same.toSameLinks.matches] at heard
      exact heard
    · exact history_notify bumped order _ _

/-- A change of a datum is delivered at the datum and at its owner. -/
theorem datumChanged_spec (order : EdgeOrder κ) (indexed : k.toState.EdgesIndexed) (d : DatumId)
    (change : Change) :
    k.toState.SameStamps (k.datumChanged order d change).toState ∧
    (∀ id, id ∈ (k.datumChanged order d change).schedule.pending ↔
      id ∈ k.schedule.pending ∨ k.toState.Hears (.datum d) change id) ∧
    (k.datumChanged order d change).history = k.history := by
  have first := k.sameStamps_notify order (.datum d) change
  have heard (id : SubscriptionId) :=
    mem_pending_notify order indexed (.datum d) change id
  have same_datums : (k.notify order (.datum d) change).datums = k.datums := by
    rw [toState_notify]
    rfl
  unfold datumChanged
  simp only [same_datums]
  cases owner : (k.datums[d]?).bind Datum.owner with
  | none =>
    refine ⟨first, fun id => ?_, history_notify _ _ _ _⟩
    have unowned (c : ClosureId) : ¬ k.toState.Owns c (.datum d) := by
      rintro ⟨d', x, eq, hx, owns⟩
      cases eq
      simp [hx, owns] at owner
    simp [heard, Hears, unowned]
  | some c =>
    obtain ⟨x, hx, owns⟩ := Option.bind_eq_some_iff.mp owner
    have owned (c' : ClosureId) : k.toState.Owns c' (.datum d) ↔ c' = c := by
      constructor
      · rintro ⟨d', y, eq, hy, owns'⟩
        cases eq
        rw [hx] at hy
        cases hy
        rw [owns] at owns'
        cases owns'
        rfl
      · rintro rfl
        exact ⟨d, x, rfl, hx, owns⟩
    obtain ⟨second, carried, quiet⟩ :=
      carry_spec order (first.toSameLinks.edgesIndexed indexed) c
    refine ⟨first.trans second, fun id => ?_, quiet.trans (history_notify _ _ _ _)⟩
    rw [carried, first.toSameLinks.matches, heard]
    simp [Hears, owned, or_assoc]

end Kernel

end ReactiveKernel
