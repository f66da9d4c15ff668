import ReactiveKernel.Proofs.Effect.Cuts
import ReactiveKernel.Proofs.Effect.Notify
import ReactiveKernel.Proofs.Run.Action
import ReactiveKernel.Proofs.State.Growth

/-!
# What an action does

Every action of a kernel outside of drains has one of seven effects: nothing that matters, the end
of an instantiation, a new datum, a new closure, a new subscription, a change, or a removal. Each
says what becomes of the state and what is added to the history, so invariants of runs are proved
once for each effect.
-/

namespace ReactiveKernel

variable {κ : Type}

namespace Kernel

open State

/-- The effect of an action on the state and on the history, and the change that it makes. -/
inductive Effect (k : Kernel κ) : Option (NodeId × Change) → Kernel κ → Prop
  /-- Nothing that other parts of the state rely on. -/
  | still {k' : Kernel κ} (same : k.toState.SameStamps k'.toState)
      (pending : k'.schedule.pending = k.schedule.pending) (history : k'.history = k.history) :
      Effect k none k'
  /-- The announcement that an instantiation is complete. -/
  | instantiated {k' : Kernel κ} (id : ClosureId) (template : String)
      (state : k'.toState = k.toState)
      (history : k'.history = k.history ++ [.announced (.closureInstantiated id template)]) :
      Effect k none k'
  /-- A new datum. -/
  | datumCreated {k' : Kernel κ} (typeName : String) (content : Content)
      (owner : Option ClosureId) (live : k.toState.HolderLive owner)
      (state : k'.toState = k.toState.addDatum typeName content owner)
      (history : k'.history =
        k.history ++ [.announced (.datumCreated k.toState.nextDatum typeName owner)]) :
      Effect k none k'
  /-- A new closure. -/
  | closureCreated {k' : Kernel κ} (template : String) (parent : Option ClosureId)
      (live : k.toState.HolderLive parent)
      (state : k'.toState = k.toState.addClosure template parent)
      (history : k'.history =
        k.history ++ [.announced (.closureCreated k.toState.nextClosure template parent)]) :
      Effect k none k'
  /-- A new subscription, which is pending at once if its source changed in this generation. -/
  | subscribed {k' : Kernel κ} (source target : NodeId) (selector : Selector) (code : κ)
      (source_live : k.toState.contains source = true)
      (target_live : k.toState.contains target = true)
      (state : k'.toState =
        (k.toState.addEdge source target selector code).withPending k'.schedule.pending)
      (pending : ∀ id, id ∈ k'.schedule.pending ↔ id ∈ k.schedule.pending ∨
        id = k.toState.nextSubscription ∧ k.toState.stamp? source = some k.generation)
      (history : k'.history = k.history ++
        [.announced (.subscribed k.toState.nextSubscription source target selector)]) :
      Effect k none k'
  /-- A change of a live node, delivered to the subscriptions that hear it. -/
  | changed {k' : Kernel κ} (e : TraceEvent) (node : NodeId) (change : Change)
      (announces : e.change? = some (node, change)) (live : k.toState.contains node = true)
      (links : k.toState.SameLinks k'.toState) (settings : k'.settings = k.settings)
      (generation : k'.schedule.generation = k.schedule.generation)
      (draining : k'.schedule.draining = k.schedule.draining)
      (stamps : ∀ n, k'.toState.stamp? n =
        if n = node then some k.generation else k.toState.stamp? n)
      (pending : ∀ id, id ∈ k'.schedule.pending ↔
        id ∈ k.schedule.pending ∨ k.toState.Hears node change id)
      (history : k'.history = k.history ++ [.announced e]) : Effect k (some (node, change)) k'
  /-- Subscriptions are dropped, and nodes that no other subscription touches are taken out. -/
  | removed {k' : Kernel κ} (lost : SubscriptionId → Prop) (gone : NodeId → Prop)
      (covers : ∀ id, k.toState.Touches gone id → lost id) (cascades : k.toState.Cascades gone)
      (state : k'.toState = (k.toState.dropEdges lost).dropNodes gone)
      (removes : k.Removes k') : Effect k none k'

variable {k k' : Kernel κ} {order : EdgeOrder κ}

theorem Effect.refl (k : Kernel κ) : k.Effect none k := .still (.refl _) rfl rfl

/-! New nodes. -/

/-- A holder may be named exactly if it is live. -/
theorem requireHolder_ok {s : State κ} {holder : Option ClosureId} {u : Unit} :
    s.requireHolder holder = .ok u ↔ s.HolderLive holder := by
  cases holder with
  | none => simp [requireHolder, HolderLive]
  | some c =>
    simp only [requireHolder, requireClosure, HolderLive, Option.some.injEq, forall_eq',
      Std.ExtTreeMap.mem_iff_isSome_getElem?]
    cases s.closures[c]? <;> simp [Except.map]

/-- A new datum takes the next identity and is added to the tables. -/
theorem createNode_spec {typeName : String} {content : Content} {owner : Option ClosureId}
    {d : DatumId} (h : k.createNode typeName content owner = .ok (d, k')) :
    k.toState.HolderLive owner ∧ d = k.toState.nextDatum ∧
      k'.toState = k.toState.addDatum typeName content owner := by
  obtain ⟨u, live, h⟩ := bind_eq_ok.mp h
  simp only [pure, Except.pure, Except.ok.injEq, Prod.mk.injEq] at h
  obtain ⟨rfl, rfl⟩ := h
  refine ⟨requireHolder_ok.mp live, rfl, ext_closures (fun c => ?_) ?_⟩
  · rw [getElem?_closures_addDatum]
    cases owner with
    | none => simp [putDatum]
    | some o =>
      simp only [toState_mapState, toState_log, toState_emit, putDatum, updateClosure_eq,
        getElem?_modify_eq_map, Option.some.injEq]
      rfl
  · cases owner with
    | none => rfl
    | some o =>
      simp only [toState_mapState, toState_log, toState_emit, putDatum, updateClosure_eq]
      rfl

/-- A new datum is announced. -/
theorem history_createNode {typeName : String} {content : Content} {owner : Option ClosureId}
    {d : DatumId} (h : k.createNode typeName content owner = .ok (d, k')) : k'.history =
      k.history ++ [.announced (.datumCreated k.toState.nextDatum typeName owner)] := by
  obtain ⟨_, _, h⟩ := bind_eq_ok.mp h
  cases h
  simp [history_log, LogEvent.isOfDrain]
  rfl

/-- The effect of a new datum. -/
theorem createNode_effect (k : Kernel κ) (typeName : String) (content : Content)
    (owner : Option ClosureId) {d : DatumId}
    (h : k.createNode typeName content owner = .ok (d, k')) : k.Effect none k' := by
  obtain ⟨live, _, state⟩ := createNode_spec h
  exact .datumCreated typeName content owner live state (history_createNode h)

/-- A new closure takes the next identity and is added to the tables. -/
theorem createClosure_spec {template : String} {parent : Option ClosureId} {c : ClosureId}
    (h : k.createClosure template parent = .ok (c, k')) :
    k.toState.HolderLive parent ∧ c = k.toState.nextClosure ∧
      k'.toState = k.toState.addClosure template parent := by
  obtain ⟨u, live, h⟩ := bind_eq_ok.mp h
  simp only [pure, Except.pure, Except.ok.injEq, Prod.mk.injEq] at h
  obtain ⟨rfl, rfl⟩ := h
  refine ⟨requireHolder_ok.mp live, rfl, ext_closures (fun b => ?_) ?_⟩
  · rw [getElem?_closures_addClosure]
    cases parent with
    | none =>
      simp only [toState_mapState, toState_emit, putClosure, Std.ExtTreeMap.getElem?_insert,
        Std.LawfulEqCmp.compare_eq_iff_eq, reduceCtorEq, if_false, Option.map_id_fun', id_eq]
      rfl
    | some p =>
      simp only [toState_mapState, toState_emit, putClosure, updateClosure_eq,
        Std.ExtTreeMap.getElem?_insert, getElem?_modify_eq_map, Option.some.injEq,
        Std.LawfulEqCmp.compare_eq_iff_eq]
      rfl
  · cases parent with
    | none => rfl
    | some p =>
      simp only [toState_mapState, toState_emit, putClosure, updateClosure_eq]
      rfl

/-- A closure is made and gets its parameters. -/
theorem toState_setParams {template : String} {parent : Option ClosureId} {c : ClosureId}
    (params : List (String × Value)) (h : k.createClosure template parent = .ok (c, k')) :
    (k'.setParams c params).toState = k.toState.enroll template parent params := by
  obtain ⟨_, rfl, state⟩ := createClosure_spec h
  rw [setParams, toState_mapState, state]
  rfl

/-- A new closure is announced. -/
theorem history_createClosure {template : String} {parent : Option ClosureId} {c : ClosureId}
    (h : k.createClosure template parent = .ok (c, k')) : k'.history =
      k.history ++ [.announced (.closureCreated k.toState.nextClosure template parent)] := by
  obtain ⟨_, _, h⟩ := bind_eq_ok.mp h
  cases h
  simp
  rfl

/-- The effect of a new closure. -/
theorem createClosure_effect (k : Kernel κ) (template : String) (parent : Option ClosureId)
    {c : ClosureId} (h : k.createClosure template parent = .ok (c, k')) : k.Effect none k' := by
  obtain ⟨live, _, state⟩ := createClosure_spec h
  exact .closureCreated template parent live state (history_createClosure h)

/-! New subscriptions. -/

/-- The stamp that is asked for is that of a live node. -/
theorem setGenerationOf_ok {s : State κ} {node : NodeId} {n : Nat} :
    s.setGenerationOf node = .ok n ↔ s.stamp? node = some n := by
  cases node with
  | datum d =>
    simp only [setGenerationOf, requireDatum, stamp?]
    cases s.datums[d]? <;> simp [bind, Except.bind, pure, Except.pure]
  | closure c =>
    simp only [setGenerationOf, requireClosure, stamp?]
    cases s.closures[c]? <;> simp [bind, Except.bind, pure, Except.pure]

/-- Whatever is stamped is live. -/
theorem contains_of_stamp {s : State κ} {node : NodeId} {n : Nat} (h : s.stamp? node = some n) :
    s.contains node = true := by
  cases node with
  | datum d =>
    obtain ⟨x, hx, _⟩ := Option.map_eq_some_iff.mp h
    exact contains_datum.mpr ⟨x, hx⟩
  | closure c =>
    obtain ⟨x, hx, _⟩ := Option.map_eq_some_iff.mp h
    exact contains_closure.mpr ⟨x, hx⟩

/-- A node may be named exactly if it is live. -/
theorem requireNode_ok {s : State κ} {node : NodeId} {u : Unit} :
    s.requireNode node = .ok u ↔ s.contains node = true := by
  unfold requireNode
  split <;> simp_all

/-- A subscription that catches up changes the pending set at most. -/
theorem toState_catchUp (k : Kernel κ) (id : SubscriptionId) (source : NodeId) (changedAt : Nat) :
    (k.catchUp id source changedAt).toState =
      k.toState.withPending (k.catchUp id source changedAt).schedule.pending := by
  unfold catchUp
  split <;> rfl

/-- A subscription is pending after it has caught up if it was, or if the change is of this
generation. -/
theorem mem_pending_catchUp {id a : SubscriptionId} {source : NodeId} {changedAt : Nat} :
    a ∈ (k.catchUp id source changedAt).schedule.pending ↔
      a ∈ k.schedule.pending ∨ a = id ∧ changedAt = k.generation := by
  unfold catchUp
  by_cases now : changedAt = k.generation
  · by_cases pending : k.schedule.pending.contains id = true
    · have member : id ∈ k.schedule.pending := Std.ExtTreeSet.contains_iff_mem.mp pending
      simp only [pending, Bool.not_true, Bool.and_false, Bool.false_eq_true, if_false]
      constructor
      · exact .inl
      · rintro (h | ⟨rfl, _⟩)
        · exact h
        · exact member
    · simp only [now, pending, beq_self_eq_true, Bool.not_false, Bool.and_self, if_true,
        toState_log, toState_mapState, Schedule.enqueue, Std.ExtTreeSet.mem_insert,
        Std.LawfulEqCmp.compare_eq_iff_eq, and_true]
      rw [or_comm, @eq_comm _ id a]
  · simp [now]

/-- A subscription that catches up does not add to the history. -/
theorem history_catchUp (k : Kernel κ) (id : SubscriptionId) (source : NodeId) (changedAt : Nat) :
    (k.catchUp id source changedAt).history = k.history := by
  unfold catchUp
  split
  · simp [history_log, LogEvent.isOfDrain]
  · rfl

/-- A new subscription takes the next identity, is added to the tables, and is pending if its source
has changed in this generation. -/
theorem subscribe_spec {source target : NodeId} {selector : Selector} {code : κ}
    {id : SubscriptionId} (h : k.subscribe source target selector code = .ok (id, k')) :
    k.toState.contains source = true ∧ k.toState.contains target = true ∧
      id = k.toState.nextSubscription ∧ k'.toState =
        (k.toState.addEdge source target selector code).withPending k'.schedule.pending ∧
      ∀ a, a ∈ k'.schedule.pending ↔ a ∈ k.schedule.pending ∨
        a = k.toState.nextSubscription ∧ k.toState.stamp? source = some k.generation := by
  obtain ⟨changedAt, stamped, h⟩ := bind_eq_ok.mp h
  obtain ⟨u, ends, h⟩ := bind_eq_ok.mp h
  simp only [pure, Except.pure, Except.ok.injEq, Prod.mk.injEq] at h
  obtain ⟨rfl, rfl⟩ := h
  have stamp := setGenerationOf_ok.mp stamped
  refine ⟨contains_of_stamp stamp, requireNode_ok.mp ends, rfl, ?_, fun a => ?_⟩
  · rw [toState_catchUp]
    refine congrArg (withPending · _) ?_
    simp only [toState_mapState, toState_emit, linkEdge_eq]
    rfl
  · rw [mem_pending_catchUp]
    simp only [toState_mapState, toState_emit, linkEdge_eq, stamp, Option.some.injEq]
    rfl

/-- A new subscription is announced. -/
theorem history_subscribe {source target : NodeId} {selector : Selector} {code : κ}
    {id : SubscriptionId} (h : k.subscribe source target selector code = .ok (id, k')) :
    k'.history = k.history ++
      [.announced (.subscribed k.toState.nextSubscription source target selector)] := by
  obtain ⟨_, _, h⟩ := bind_eq_ok.mp h
  obtain ⟨_, _, h⟩ := bind_eq_ok.mp h
  cases h
  rw [history_catchUp]
  simp
  rfl

/-- The effect of a new subscription. -/
theorem subscribe_effect (k : Kernel κ) (source target : NodeId) (selector : Selector) (code : κ)
    {id : SubscriptionId} (h : k.subscribe source target selector code = .ok (id, k')) :
    k.Effect none k' := by
  obtain ⟨source_live, target_live, _, state, pending⟩ := subscribe_spec h
  exact .subscribed source target selector code source_live target_live state pending
    (history_subscribe h)

/-! Changes. -/

/-- A change is stamped and announced, and then delivered. -/
theorem Effect.delivered {node : NodeId} {change : Change} {e : TraceEvent} {k₁ : Kernel κ}
    (announces : e.change? = some (node, change)) (live : k.toState.contains node = true)
    (same : k.toState.SameLinks k₁.toState) (settings : k₁.settings = k.settings)
    (schedule : k₁.schedule = k.schedule)
    (stamps : ∀ n, k₁.toState.stamp? n =
      if n = node then some k.generation else k.toState.stamp? n)
    (history : k₁.history = k.history ++ [.announced e])
    (later : k₁.toState.SameStamps k'.toState)
    (heard : ∀ id, id ∈ k'.schedule.pending ↔
      id ∈ k₁.schedule.pending ∨ k₁.toState.Hears node change id)
    (quiet : k'.history = k₁.history) : k.Effect (some (node, change)) k' := by
  refine .changed e node change announces live (same.trans later.toSameLinks)
    (later.settings.trans settings) ?_ ?_ ?_ ?_ (quiet.trans history)
  · rw [later.generation, schedule]
  · rw [later.draining, schedule]
  · intro n
    rw [later.stamps, stamps]
  · intro id
    rw [heard, same.hears, schedule]

/-- A datum with a new content or status, stamped and delivered. -/
theorem datumChanged_effect (indexed : k.toState.EdgesIndexed) {d : DatumId} {x y : Datum}
    (hd : k.datums[d]? = some x) (links : y.links = x.links) {e : TraceEvent} {change : Change}
    (announces : e.change? = some (.datum d, change)) {k₁ : Kernel κ}
    (state : k₁.toState = k.toState.putDatum d (y.touch k.generation))
    (history : k₁.history = k.history ++ [.announced e]) :
    k.Effect (some (.datum d, change)) (k₁.datumChanged order d change) := by
  have same : k.toState.SameLinks k₁.toState := state ▸ .putDatum hd links
  have stamps (n : NodeId) : k₁.toState.stamp? n =
      if n = .datum d then some k.generation else k.toState.stamp? n := by
    rw [state]
    exact stamp?_putDatum _ _ _ _
  obtain ⟨later, heard, quiet⟩ := datumChanged_spec order (same.edgesIndexed indexed) d change
  refine .delivered announces (contains_datum.mpr ⟨x, hd⟩) same ?_ ?_ stamps history later heard
    quiet
  · rw [state]
    rfl
  · rw [state]
    rfl

/-- A closure with new fields, stamped and delivered. -/
theorem closureChanged_effect (indexed : k.toState.EdgesIndexed) {c : ClosureId} {x y : Closure}
    (hc : k.closures[c]? = some x) (links : y.links = x.links) {e : TraceEvent} {change : Change}
    (announces : e.change? = some (.closure c, change)) {k₁ : Kernel κ}
    (state : k₁.toState = k.toState.putClosure c (y.touch k.generation))
    (history : k₁.history = k.history ++ [.announced e]) :
    k.Effect (some (.closure c, change)) (k₁.notify order (.closure c) change) := by
  have same : k.toState.SameLinks k₁.toState := state ▸ .putClosure hc links
  have stamps (n : NodeId) : k₁.toState.stamp? n =
      if n = .closure c then some k.generation else k.toState.stamp? n := by
    rw [state]
    exact stamp?_putClosure _ _ _ _
  have heard (id : SubscriptionId) :
      id ∈ (k₁.notify order (.closure c) change).schedule.pending ↔
        id ∈ k₁.schedule.pending ∨ k₁.toState.Hears (.closure c) change id := by
    rw [mem_pending_notify order (same.edgesIndexed indexed), hears_closure]
  refine .delivered announces (contains_closure.mpr ⟨x, hc⟩) same ?_ ?_ stamps history
    (k₁.sameStamps_notify order _ change) heard (history_notify _ _ _ _)
  · rw [state]
    rfl
  · rw [state]
    rfl

/-- The effect of a write to a field of a datum. -/
theorem setDatumField_effect (indexed : k.toState.EdgesIndexed) {d : DatumId} {field : String}
    {value : Value} {b : Bool} (h : k.setDatumField order d field value = .ok (b, k')) :
    k.Effect (if b then some (.datum d, .field field) else none) k' := by
  obtain ⟨x, hx, h⟩ := bind_eq_ok.mp h
  obtain ⟨fields, _, h⟩ := bind_eq_ok.mp h
  simp only [pure, Except.pure] at h
  split at h
  · cases h
    exact .refl k
  · cases h
    refine datumChanged_effect indexed (requireDatum_ok.mp hx)
      (y := { x with content := .record (fields.insert field value) }) rfl
      (e := .fieldSet (.datum d) field ((fields[field]?).getD .null) value k.generation) rfl rfl ?_
    simp [announceField, history_log, LogEvent.isOfDrain]
    rfl

/-- The effect of a write to a field of a closure. -/
theorem setClosureField_effect (indexed : k.toState.EdgesIndexed) {c : ClosureId}
    {field : String} {value : Value} {b : Bool}
    (h : k.setClosureField order c field value = .ok (b, k')) :
    k.Effect (if b then some (.closure c, .field field) else none) k' := by
  obtain ⟨x, hx, h⟩ := bind_eq_ok.mp h
  simp only [pure, Except.pure] at h
  split at h
  · cases h
    exact .refl k
  · cases h
    refine closureChanged_effect indexed (requireClosure_ok.mp hx)
      (y := { x with fields := x.fields.insert field value }) rfl
      (e := .fieldSet (.closure c) field ((x.fields[field]?).getD .null) value k.generation) rfl
      rfl ?_
    simp [announceField, history_log, LogEvent.isOfDrain]
    rfl

/-- The effect of a write to a field of a node. -/
theorem set_effect (indexed : k.toState.EdgesIndexed) {node : NodeId} {field : String}
    {value : Value} {b : Bool} (h : k.set order node field value = .ok (b, k')) :
    k.Effect (if b then some (node, .field field) else none) k' := by
  cases node with
  | datum d => exact setDatumField_effect indexed h
  | closure c => exact setClosureField_effect indexed h

/-- The effect of the replacement of the items of a collection. -/
theorem replaceItems_effect (indexed : k.toState.EdgesIndexed) {d : DatumId} {x : Datum}
    (hd : k.datums[d]? = some x) (items : List Value) :
    k.Effect (some (.datum d, .items)) (k.replaceItems order d x items) :=
  datumChanged_effect indexed hd (y := { x with content := .collection items }) rfl
    (e := .itemsSet d items.length k.generation) rfl rfl (history_emit _ _)

/-- The effect of an update of a status. -/
theorem updateStatus_effect (order : EdgeOrder κ) (indexed : k.toState.EdgesIndexed)
    {d : DatumId} {x : Datum} (hd : k.datums[d]? = some x) (status : Status) :
    k.Effect (if (k.updateStatus order d x status).1 then some (.datum d, .availability) else none)
      (k.updateStatus order d x status).2 := by
  unfold updateStatus
  split
  · exact .refl k
  · refine datumChanged_effect indexed hd (y := { x with status }) rfl
      (e := .availabilitySet d status k.generation) rfl rfl ?_
    simp [history_log, LogEvent.isOfDrain]
    rfl

/-- The effect of new items in a collection. -/
theorem setItems_effect (indexed : k.toState.EdgesIndexed) {d : DatumId} {items : List Value}
    {u : Unit} (h : k.setItems order d items = .ok (u, k')) :
    k.Effect (some (.datum d, .items)) k' := by
  obtain ⟨x, hx, h⟩ := bind_eq_ok.mp h
  obtain ⟨_, _, h⟩ := bind_eq_ok.mp h
  cases h
  exact replaceItems_effect indexed (requireDatum_ok.mp hx) items

/-- The effect of a write to an item of a collection. -/
theorem setItem_effect (indexed : k.toState.EdgesIndexed) {d : DatumId} {index : Nat}
    {value : Value} {b : Bool} (h : k.setItem order d index value = .ok (b, k')) :
    k.Effect (if b then some (.datum d, .items) else none) k' := by
  obtain ⟨x, hx, h⟩ := bind_eq_ok.mp h
  obtain ⟨items, _, h⟩ := bind_eq_ok.mp h
  split at h
  · cases h
  · split at h
    · cases h
      exact .refl k
    · cases h
      exact replaceItems_effect indexed (requireDatum_ok.mp hx) _

/-- The effect of one more item in a collection. -/
theorem pushItem_effect (indexed : k.toState.EdgesIndexed) {d : DatumId} {value : Value}
    {u : Unit} (h : k.pushItem order d value = .ok (u, k')) :
    k.Effect (some (.datum d, .items)) k' := by
  obtain ⟨x, hx, h⟩ := bind_eq_ok.mp h
  obtain ⟨_, _, h⟩ := bind_eq_ok.mp h
  cases h
  exact replaceItems_effect indexed (requireDatum_ok.mp hx) _

/-- The effect of the removal of an item from a collection. -/
theorem removeItem_effect (indexed : k.toState.EdgesIndexed) {d : DatumId} {index : Nat}
    {v : Value} (h : k.removeItem order d index = .ok (v, k')) :
    k.Effect (some (.datum d, .items)) k' := by
  obtain ⟨x, hx, h⟩ := bind_eq_ok.mp h
  obtain ⟨items, _, h⟩ := bind_eq_ok.mp h
  split at h
  · cases h
  · cases h
    exact replaceItems_effect indexed (requireDatum_ok.mp hx) _

/-- The effect of a new availability of a datum. -/
theorem setAvailability_effect (indexed : k.toState.EdgesIndexed) {d : DatumId}
    {a : Availability} {b : Bool} (h : k.setAvailability order d a = .ok (b, k')) :
    k.Effect (if b then some (.datum d, .availability) else none) k' := by
  obtain ⟨x, hx, h⟩ := bind_eq_ok.mp h
  have effect := updateStatus_effect order indexed (requireDatum_ok.mp hx)
    (x.status.withAvailability a)
  simp only [pure, Except.pure, Except.ok.injEq] at h
  rwa [h] at effect

/-- The effect of a new error of a datum. -/
theorem setError_effect (indexed : k.toState.EdgesIndexed) {d : DatumId} {payload : Value}
    {b : Bool} (h : k.setError order d payload = .ok (b, k')) :
    k.Effect (if b then some (.datum d, .availability) else none) k' := by
  obtain ⟨x, hx, h⟩ := bind_eq_ok.mp h
  have effect := updateStatus_effect order indexed (requireDatum_ok.mp hx)
    (.failed (some payload))
  simp only [pure, Except.pure, Except.ok.injEq] at h
  rwa [h] at effect

/-! Removals. -/

/-- The effect of the removal of a subscription. -/
theorem removeEdge_effect (indexed : k.toState.EdgesIndexed) (id : SubscriptionId) :
    k.Effect none (k.removeEdge id) := by
  refine .removed (· = id) (fun _ => False) ?_ ⟨?_, ?_⟩ ?_ (removes_removeEdge k id)
  · rintro a ⟨e, _, h | h⟩
    · exact h.elim
    · exact h.elim
  · exact fun _ _ _ h => h.elim
  · exact fun _ _ _ h => h.elim
  · rw [toState_removeEdge indexed, dropNodes_none]

/-- The effect of the destruction of a datum. -/
theorem razeDatum_effect (consistent : k.toState.Consistent) (d : DatumId) :
    k.Effect none (k.razeDatum order d) :=
  .removed (k.toState.Touches (· = .datum d)) (· = .datum d) (fun _ h => h)
    (cascades_datum _ d) (toState_razeDatum consistent.indexed consistent.forest.sound order d)
    (removes_razeDatum k order d)

/-- The effect of the destruction of a closure. -/
theorem raze_effect (consistent : k.toState.Consistent) (c : ClosureId) :
    k.Effect none (k.raze order c) :=
  .removed (k.toState.Touches (k.toState.Below c)) (k.toState.Below c) (fun _ h => h)
    (consistent.forest.sound.cascades_below c)
    (toState_raze consistent.indexed consistent.forest.sound order c) (removes_raze k order c)

/-! Commands and actions. -/

end Kernel

namespace Command

/-- The change that a command makes if this is the answer. -/
def change? : (c : Command κ) → Except Fault c.Reply → Option (NodeId × Change)
  | .set node field _, .ok (effective : Bool) =>
    if effective then some (node, .field field) else none
  | .setItems d _, .ok _ | .pushItem d _, .ok _ | .removeItem d _, .ok _ => some (.datum d, .items)
  | .setItem d _ _, .ok (effective : Bool) => if effective then some (.datum d, .items) else none
  | .setAvailability d _, .ok (effective : Bool) | .setError d _, .ok (effective : Bool) =>
    if effective then some (.datum d, .availability) else none
  | _, _ => none

/-- A command that is refused changes nothing. -/
theorem change_error (c : Command κ) (fault : Fault) : c.change? (.error fault) = none := by
  cases c <;> rfl

end Command

namespace Kernel

open State

variable {k k' : Kernel κ} {order : EdgeOrder κ}

/-- The effect of a command is that of the change that its answer tells, if it tells one. -/
theorem perform_effect (consistent : k.toState.Consistent) (c : Command κ) :
    k.Effect (c.change? (c.perform order k).1) (c.perform order k).2 := by
  have indexed := consistent.indexed
  cases h : c.attempt order k with
  | error fault =>
    rw [Command.perform_of_error h, Command.change_error]
    exact .refl k
  | ok done =>
    obtain ⟨reply, k'⟩ := done
    rw [Command.perform_of_ok h]
    cases c with
    | createDatum typeName fields owner => exact createNode_effect k _ _ _ h
    | createCollection typeName items owner => exact createNode_effect k _ _ _ h
    | createClosure template parent => exact createClosure_effect k template parent h
    | subscribe source target selector code =>
      exact subscribe_effect k source target selector code h
    | unsubscribe id =>
      cases h
      exact removeEdge_effect indexed id
    | set node field value => exact set_effect indexed h
    | setItems id items => exact setItems_effect indexed h
    | setItem id index value => exact setItem_effect indexed h
    | pushItem id value => exact pushItem_effect indexed h
    | removeItem id index => exact removeItem_effect indexed h
    | setAvailability id a => exact setAvailability_effect indexed h
    | setError id payload => exact setError_effect indexed h
    | destroyDatum id =>
      obtain ⟨_, _, h⟩ := bind_eq_ok.mp h
      cases h
      exact razeDatum_effect consistent id
    | destroyClosure id =>
      obtain ⟨_, _, h⟩ := bind_eq_ok.mp h
      cases h
      exact raze_effect consistent id
    | putEvent event =>
      cases h
      exact .still (.mk ⟨rfl, rfl, fun _ => rfl, fun _ => rfl⟩ (fun _ => rfl) rfl rfl rfl) rfl
        (by simp [putEvent, history_note, Occurrence.isQuiet])
    | register name template =>
      cases h
      exact .still (.mk ⟨rfl, rfl, fun _ => rfl, fun _ => rfl⟩ (fun _ => rfl) rfl rfl rfl) rfl rfl

/-- Only the closure that gets the parameters changes. -/
theorem getElem?_closures_setParams (k : Kernel κ) (c : ClosureId)
    (params : List (String × Value)) (a : ClosureId) :
    (k.setParams c params).closures[a]? = (k.closures[a]?).map fun x =>
      if c = a then { x with fields := x.fields.insertAll params } else x := by
  have state : (k.setParams c params).toState = { k.toState with
      closures := k.closures.modify c fun x => { x with fields := x.fields.insertAll params } } :=
    k.toState.updateClosure_eq c _
  rw [state]
  exact getElem?_modify_eq_map _ _ _ _

/-- The effect of parameters that are given to a closure. -/
theorem setParams_effect (k : Kernel κ) (c : ClosureId) (params : List (String × Value)) :
    k.Effect none (k.setParams c params) := by
  refine .still ?_ ?_ rfl
  · simp only [setParams, toState_mapState]
    cases hc : k.closures[c]? with
    | none =>
      simp only [updateClosure, hc]
      exact .refl _
    | some x =>
      simp only [updateClosure, hc]
      exact .putClosure hc rfl rfl
  · simp only [setParams, toState_mapState, updateClosure_eq]

/-- Every action has an effect. -/
theorem Action.effect (consistent : k.toState.Consistent) (h : k.Action order k') :
    ∃ change, k.Effect change k' := by
  cases h with
  | command c => exact ⟨_, perform_effect consistent c⟩
  | params c params => exact ⟨none, setParams_effect k c params⟩
  | takeEvents =>
    have same : k.toState.SameStamps k.takeEvents.2.toState :=
      ⟨⟨rfl, rfl, fun _ => rfl, fun _ => rfl⟩, fun _ => rfl, rfl, rfl, rfl⟩
    exact ⟨none, .still same rfl rfl⟩
  | applying event =>
    exact ⟨none, .still (.refl _) rfl (by simp [history_note, Occurrence.isQuiet])⟩
  | instantiated c template _ => exact ⟨none, .instantiated c template rfl (history_emit _ _)⟩
  | log e he => exact ⟨none, .still (.refl _) rfl (by simp [history_log, he])⟩

end Kernel

end ReactiveKernel
