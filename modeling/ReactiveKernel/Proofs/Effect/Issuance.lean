import ReactiveKernel.Proofs.Effect.Consistency

/-!
# What was ever given out

The journal announces every datum, closure and subscription when it is made. Each effect that
makes one announces the next identity of its family, which was not given out before, and no other
effect announces any. So no identity is given out twice in a run.
-/

namespace ReactiveKernel

variable {κ : Type}

/-- An identity that a kernel gives out. -/
inductive Identity where
  | datum (id : DatumId)
  | closure (id : ClosureId)
  | subscription (id : SubscriptionId)
  deriving DecidableEq

/-- The identity of a node. -/
def NodeId.identity : NodeId → Identity
  | .datum d => .datum d
  | .closure c => .closure c

/-- A node is determined by its identity. -/
theorem NodeId.identity_inj {m n : NodeId} (h : m.identity = n.identity) : m = n := by
  cases m <;> cases n <;> cases h <;> rfl

/-- The identity of what an event says is made. -/
def TraceEvent.made? : TraceEvent → Option Identity
  | .datumCreated id .. => some (.datum id)
  | .closureCreated id .. => some (.closure id)
  | .subscribed id .. => some (.subscription id)
  | _ => none

/-- The identity of what an entry of the journal says is made. -/
def Occurrence.made? : Occurrence κ → Option Identity
  | .announced e => e.made?
  | _ => none

namespace State

/-- An identity was given out. -/
def Given (s : State κ) : Identity → Prop
  | .datum id => id.index < s.counters.datums
  | .closure id => id.index < s.counters.closures
  | .subscription id => id.raw < s.counters.subscriptions

/-- An identity is that of a live node or of a registered subscription. -/
def Live (s : State κ) : Identity → Prop
  | .datum id => id ∈ s.datums
  | .closure id => id ∈ s.closures
  | .subscription id => id ∈ s.edges.subscriptions

variable {s t : State κ}

/-- What is live was given out. -/
theorem Issued.given (issued : s.Issued) {i : Identity} (live : s.Live i) : s.Given i := by
  cases i with
  | datum d =>
    obtain ⟨x, hx⟩ := mem_datums.mp live
    exact issued.datums d x hx
  | closure c =>
    obtain ⟨x, hx⟩ := exists_closure live
    exact issued.closures c x hx
  | subscription id =>
    obtain ⟨e, he⟩ := Kernel.mem_subscriptions.mp live
    exact issued.registered id e he

/-- What was given out and is gone stays gone. -/
theorem Evolves.dead (evolves : s.Evolves t) {i : Identity} (given : s.Given i)
    (dead : ¬ s.Live i) : ¬ t.Live i := by
  cases i with
  | datum d => exact fun live => dead (evolves.datums d live given)
  | closure c => exact fun live => dead (evolves.closures c live given)
  | subscription id => exact fun live => dead (evolves.registered id live given)

/-- What was given out is determined by the counters. -/
theorem given_congr (counters : t.counters = s.counters) (i : Identity) :
    t.Given i ↔ s.Given i := by
  cases i <;> simp only [Given, counters]

/-- Of all identities, a new datum has only its own given out. -/
theorem given_addDatum (typeName : String) (content : Content) (owner : Option ClosureId)
    (i : Identity) :
    (s.addDatum typeName content owner).Given i ↔ s.Given i ∨ i = .datum s.nextDatum := by
  cases i with
  | datum d =>
    obtain ⟨n⟩ := d
    simp only [Given, addDatum, nextDatum, Identity.datum.injEq, DatumId.mk.injEq]
    omega
  | closure c => simp [Given, addDatum]
  | subscription id => simp [Given, addDatum]

/-- A new closure is given the next identity. -/
theorem given_addClosure (template : String) (parent : Option ClosureId) (i : Identity) :
    (s.addClosure template parent).Given i ↔ s.Given i ∨ i = .closure s.nextClosure := by
  cases i with
  | datum d => simp [Given, addClosure]
  | closure c =>
    obtain ⟨n⟩ := c
    simp only [Given, addClosure, nextClosure, Identity.closure.injEq, ClosureId.mk.injEq]
    omega
  | subscription id => simp [Given, addClosure]

/-- A new subscription is given the next identity. -/
theorem given_addEdge (source target : NodeId) (selector : Selector) (code : κ) (i : Identity) :
    (s.addEdge source target selector code).Given i ↔
      s.Given i ∨ i = .subscription s.nextSubscription := by
  cases i with
  | datum d => simp [Given, addEdge]
  | closure c => simp [Given, addEdge]
  | subscription id =>
    obtain ⟨n⟩ := id
    simp only [Given, addEdge, nextSubscription, Identity.subscription.injEq,
      SubscriptionId.mk.injEq]
    omega

/-- What is next in its family was not given out yet. -/
theorem not_given_next (s : State κ) : ¬ s.Given (.datum s.nextDatum) ∧
    ¬ s.Given (.closure s.nextClosure) ∧ ¬ s.Given (.subscription s.nextSubscription) :=
  ⟨Nat.lt_irrefl _, Nat.lt_irrefl _, Nat.lt_irrefl _⟩

end State

namespace Kernel

open State

variable {k k' : Kernel κ}

/-- All that was made so far, in this order. -/
def made (k : Kernel κ) : List Identity := k.journal.toList.filterMap Occurrence.made?

/-- Quiet entries do not say that anything is made. -/
theorem made_eq_history (k : Kernel κ) : k.made = k.history.filterMap Occurrence.made? := by
  rw [made, history, List.filterMap_filter]
  refine List.filterMap_congr fun o _ => ?_
  cases o with
  | logged e => simp [Occurrence.made?]
  | _ => rfl

/-- Announcing something that is not made, or anything else, makes nothing. -/
theorem made_append {entries : List (Occurrence κ)} (history : k'.history = k.history ++ entries)
    (nothing : ∀ o ∈ entries, o.made? = none) : k'.made = k.made := by
  rw [made_eq_history, made_eq_history, history, List.filterMap_append,
    List.filterMap_eq_nil_iff.mpr nothing, List.append_nil]

/-- An entry that says that something is made adds it to what was made. -/
theorem made_push {o : Occurrence κ} {i : Identity} (history : k'.history = k.history ++ [o])
    (something : o.made? = some i) : k'.made = k.made ++ [i] := by
  rw [made_eq_history, made_eq_history, history, List.filterMap_append]
  simp [something]

/-- What was made stays made if nothing is. -/
theorem prefix_of_same (same : k'.made = k.made) : k.made <+: k'.made := same ▸ List.prefix_rfl

/-- An effect makes nothing, or something new. -/
theorem Effect.made {change : Option (NodeId × Change)} (h : k.Effect change k') :
    (k'.made = k.made ∧ ∀ j, k'.toState.Given j ↔ k.toState.Given j) ∨
    ∃ i, k'.made = k.made ++ [i] ∧ ¬ k.toState.Given i ∧
      ∀ j, k'.toState.Given j ↔ k.toState.Given j ∨ j = i := by
  cases h with
  | still same _ history =>
    exact .inl ⟨made_append (history.trans (List.append_nil _).symm) (by simp),
      given_congr same.counters⟩
  | instantiated id template state history =>
    refine .inl ⟨made_append history ?_, given_congr (congrArg State.counters state)⟩
    simp [Occurrence.made?, TraceEvent.made?]
  | datumCreated typeName content owner _ state history =>
    have given := given_addDatum (s := k.toState) typeName content owner
    rw [← state] at given
    exact .inr ⟨_, made_push history rfl, k.toState.not_given_next.1, given⟩
  | closureCreated template parent _ state history =>
    have given := given_addClosure (s := k.toState) template parent
    rw [← state] at given
    exact .inr ⟨_, made_push history rfl, k.toState.not_given_next.2.1, given⟩
  | subscribed source target selector code _ _ state _ history =>
    have given := given_addEdge (s := k.toState) source target selector code
    have same := given_congr (congrArg State.counters state)
    refine .inr ⟨_, made_push history rfl, k.toState.not_given_next.2.2, fun j => ?_⟩
    exact (same j).trans (given j)
  | changed e node change announces _ links _ _ _ _ _ history =>
    refine .inl ⟨made_append history ?_, given_congr links.counters⟩
    cases e <;> simp_all [TraceEvent.change?, Occurrence.made?, TraceEvent.made?]
  | removed lost gone _ _ state removes =>
    obtain ⟨cuts, cut⟩ := removes
    refine .inl ⟨made_append cut.history ?_, ?_⟩
    · intro o ho
      obtain ⟨e, he, rfl⟩ := List.mem_map.mp ho
      have removal := cut.removals e he
      cases e <;> simp_all [TraceEvent.isRemoval, Occurrence.made?, TraceEvent.made?]
    · exact given_congr (by rw [state]; rfl)

/-- A drain makes nothing itself. -/
theorem DrainAction.made (h : k.DrainAction k') : k'.made = k.made := by
  cases h with
  | emit e he =>
    refine made_append (history_emit k e) ?_
    cases e <;> simp_all [TraceEvent.isOfDrain, Occurrence.made?, TraceEvent.made?]
  | note o ho =>
    refine made_append (history_note k o) ?_
    cases o <;> simp_all [Occurrence.isOfDrain, Occurrence.isQuiet, Occurrence.made?]
  | reschedule s _ => rfl

/-- A probe makes nothing. -/
theorem made_probe (p : Probe) (k : Kernel κ) : (p.perform k).2.made = k.made := by
  cases p with
  | remark text =>
    refine made_append (history_note k (.remarked text)) ?_
    simp [Occurrence.isQuiet]
  | _ => rfl

/-- What was given out was made once. -/
structure Accounted (k : Kernel κ) : Prop where
  /-- The state is consistent. -/
  consistent : k.toState.Consistent
  /-- Nothing was made twice. -/
  nodup : k.made.Nodup
  /-- Exactly what was made was given out. -/
  given : ∀ i, i ∈ k.made ↔ k.toState.Given i

/-- An effect makes what it gives out. -/
theorem Accounted.effect {change : Option (NodeId × Change)} (h : k.Accounted)
    (effect : k.Effect change k') : k'.Accounted ∧ k.made <+: k'.made := by
  have consistent := effect.consistent h.consistent
  rcases effect.made with ⟨same, given⟩ | ⟨i, more, fresh, given⟩
  · refine ⟨⟨consistent, same ▸ h.nodup, fun j => ?_⟩, prefix_of_same same⟩
    rw [same, given, h.given]
  · have new : i ∉ k.made := fun old => fresh ((h.given i).mp old)
    refine ⟨⟨consistent, ?_, fun j => ?_⟩, more ▸ List.prefix_append _ _⟩
    · rw [more]
      exact List.nodup_append.mpr ⟨h.nodup, List.nodup_singleton i, fun a ha b hb eq => by
        rw [List.mem_singleton] at hb
        exact new (hb ▸ eq ▸ ha)⟩
    · rw [more, given, List.mem_append, h.given, List.mem_singleton]

/-- A new kernel has made nothing and has given out nothing. -/
theorem accounted_create (settings : Settings) (templates : TemplateLibrary κ) :
    (Kernel.create settings templates).Accounted := by
  refine ⟨consistent_create settings templates, List.nodup_nil, ?_⟩
  intro i
  constructor
  · intro none_made
    cases none_made
  · intro given
    cases i <;> exact absurd given (Nat.not_lt_zero _)

end Kernel

/-- What was given out was made once, and stays in the list of what was made. -/
def Contract.accounting (κ : Type) : Contract κ :=
  ⟨Kernel.Accounted, fun k k' => k.made <+: k'.made, fun _ _ => True⟩

namespace Contract

open Kernel

/-- All actions make what they give out. -/
theorem accounting_drainStable : (accounting κ).DrainStable where
  refl k := List.prefix_refl k.made
  trans := List.IsPrefix.trans
  returns_refl _ := trivial
  returns_trans _ _ := trivial
  act _ _ _ action accounted :=
    have ⟨_, effect⟩ := action.effect accounted.consistent
    have done := accounted.effect effect
    ⟨done.1, done.2, trivial⟩
  drainAct action accounted := by
    have same := action.made
    have acted := consistency_drainStable.drainAct action accounted.consistent
    refine ⟨⟨acted.holds, same ▸ accounted.nodup, fun i => ?_⟩, prefix_of_same same, trivial⟩
    rw [same, accounted.given, State.given_congr action.sameLinks.counters]

/-- What is given out is made in every run. -/
theorem accounting_sound : (accounting κ).Sound :=
  accounting_drainStable.sound fun p k accounted => by
    have state := toState_probe p k
    have same := made_probe p k
    refine ⟨⟨state ▸ accounted.consistent, same ▸ accounted.nodup, fun i => ?_⟩,
      prefix_of_same same, trivial⟩
    rw [same, state, accounted.given]

end Contract

namespace Kernel

variable {k k' : Kernel κ}

/-- Nothing was made twice, and exactly what was made was given out. -/
theorem Reachable.accounted (h : k.Reachable) : k.Accounted :=
  Contract.accounting_sound.reachable accounted_create h

/-- What was made stays in the list of what was made. -/
theorem Precedes.made (h : k.Precedes k') : k.made <+: k'.made :=
  Contract.accounting_sound.precedes accounted_create h

end Kernel

end ReactiveKernel
