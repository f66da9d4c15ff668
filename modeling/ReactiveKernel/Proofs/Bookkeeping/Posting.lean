import ReactiveKernel.Proofs.Bookkeeping.Account
import ReactiveKernel.Proofs.Trace.Narration

/-!
# What is posted

Whatever happens to the accounts is posted: every action announces some events, and either they say
nothing of accounts and none is new or changed, or one event tells of a new account, or one event
tells exactly what a change has done. Mutations that write what is there already post nothing.
-/

namespace ReactiveKernel

variable {κ : Type}

namespace TraceEvent

/-- The node that an event says was changed. -/
def changed? (e : TraceEvent) : Option NodeId := e.change?.map Prod.fst

/-- The generation of the change that an event tells of. -/
def stamp? : TraceEvent → Option Nat
  | .fieldSet _ _ _ _ generation | .itemsSet _ _ generation | .availabilitySet _ _ generation =>
    some generation
  | _ => none

/-- Whether an event tells of a new node or of a change. -/
def isPosted : TraceEvent → Bool
  | .datumCreated .. | .closureCreated ..
  | .fieldSet .. | .itemsSet .. | .availabilitySet .. => true
  | _ => false

/-- An event tells what a change of a node has done: what was written there, and what is now. -/
inductive Tells (generation : Nat) : TraceEvent → NodeId → Slot → Slot → Prop
  /-- A field of a record. -/
  | datumField (d : DatumId) (fields : FieldMap) (status : Status) (name : String) (value : Value) :
    Tells generation
      (.fieldSet (.datum d) name ((fields[name]?).getD .null) value generation) (.datum d)
      (.datum (.record fields) status) (.datum (.record (fields.insert name value)) status)
  /-- A field of a closure. -/
  | closureField (c : ClosureId) (fields : FieldMap) (name : String) (value : Value) :
    Tells generation
      (.fieldSet (.closure c) name ((fields[name]?).getD .null) value generation) (.closure c)
      (.closure fields) (.closure (fields.insert name value))
  /-- The items of a collection. -/
  | items (d : DatumId) (old items : List Value) (status : Status) :
    Tells generation (.itemsSet d items.length generation) (.datum d)
      (.datum (.collection old) status) (.datum (.collection items) status)
  /-- The status of a datum. -/
  | status (d : DatumId) (content : Content) (old status : Status) :
    Tells generation (.availabilitySet d status generation) (.datum d)
      (.datum content old) (.datum content status)

variable {e : TraceEvent}

/-- An event that tells of no account changes no node. -/
theorem changed_of_not_posted (h : e.isPosted = false) : e.changed? = none := by
  cases e <;> first | rfl | cases h

/-- An event that tells of no account makes no node. -/
theorem made_of_not_posted (h : e.isPosted = false) (n : NodeId) : e.made? ≠ some n.identity := by
  cases e <;> cases n <;> simp_all [isPosted, made?, NodeId.identity]

/-- An event that tells what a change has done names the changed node. -/
theorem Tells.changed {generation : Nat} {n : NodeId} {u v : Slot} (h : e.Tells generation n u v) :
    e.changed? = some n := by
  cases h <;> rfl

/-- An event that tells what a change has done has its generation. -/
theorem Tells.stamp {generation : Nat} {n : NodeId} {u v : Slot} (h : e.Tells generation n u v) :
    e.stamp? = some generation := by
  cases h <;> rfl

/-- What tells of a change does not tell of anything new. -/
theorem made_of_changed {n : NodeId} (h : e.changed? = some n) : e.made? = none := by
  cases e <;> first | rfl | cases h

end TraceEvent

namespace State

/-- Some events tell of no account, and nodes may be gone at most. -/
structure Keeps (s : State κ) (events : List TraceEvent) (t : State κ) : Prop where
  /-- They tell of no new node and of no change. -/
  silent : ∀ e ∈ events, e.isPosted = false
  /-- No node was given out. -/
  given : ∀ n : NodeId, t.Given n.identity ↔ s.Given n.identity
  /-- The accounts that are left are as they were. -/
  accounts : ∀ n a, t.account? n = some a → s.account? n = some a

/-- An event tells of a new node. -/
structure Opens (s : State κ) (e : TraceEvent) (node : NodeId) (slot : Slot)
    (owner : Option ClosureId) (t : State κ) : Prop where
  /-- It tells that the node is made. -/
  made : e.made? = some node.identity
  /-- The node was not given out. -/
  fresh : ¬ s.Given node.identity
  /-- It tells who owns the node. -/
  owned : ∀ d c, (∃ typeName, e = .datumCreated d typeName (some c)) ↔
    node = .datum d ∧ owner = some c
  /-- The owner was given out. -/
  holder : ∀ c, owner = some c → s.Given (.closure c)
  /-- No other node was given out. -/
  given : ∀ n : NodeId, t.Given n.identity ↔ s.Given n.identity ∨ n = node
  /-- One account is new. -/
  accounts : ∀ n, t.account? n =
    if n = node then some (.opened slot s.generation owner) else s.account? n

/-- An event tells of a change of a live node. -/
structure Alters (s : State κ) (e : TraceEvent) (node : NodeId) (a : Account) (slot : Slot)
    (t : State κ) : Prop where
  /-- The node had this account. -/
  was : s.account? node = some a
  /-- It tells what was written there and what is now. -/
  tells : e.Tells s.generation node a.slot slot
  /-- No node was given out. -/
  given : ∀ n : NodeId, t.Given n.identity ↔ s.Given n.identity
  /-- The change counts at the node. -/
  here : t.account? node = some (a.touch slot s.generation)
  /-- It counts at the owner. -/
  above : ∀ c, a.owner = some c →
    t.account? (.closure c) = (s.account? (.closure c)).map Account.carry
  /-- It counts nowhere else. -/
  other : ∀ n, n ≠ node → (∀ c, a.owner = some c → n ≠ .closure c) → t.account? n = s.account? n

/-- A new datum. -/
theorem opens_addDatum {s : State κ} (issued : s.Issued) {owner : Option ClosureId}
    (live : s.HolderLive owner) (typeName : String) (content : Content) :
    s.Opens (.datumCreated s.nextDatum typeName owner) (.datum s.nextDatum)
      (.datum content .ready) owner (s.addDatum typeName content owner) where
  made := rfl
  fresh := s.not_given_next.1
  owned d c := by simp [eq_comm]
  holder c holds := by
    obtain ⟨x, hx⟩ := exists_closure (live c holds)
    exact issued.closures c x hx
  given n := by
    rw [given_addDatum]
    cases n <;> simp [NodeId.identity]
  accounts n := account_addDatum typeName content owner n

/-- A new closure. Its parent does not count its changes. -/
theorem opens_enroll (s : State κ) (template : String) (parent : Option ClosureId)
    (params : List (String × Value)) :
    s.Opens (.closureCreated s.nextClosure template parent) (.closure s.nextClosure)
      (.closure (.ofEntries params)) none (s.enroll template parent params) where
  made := rfl
  fresh := s.not_given_next.2.1
  owned d c := by simp
  holder c holds := by cases holds
  given n := by
    have counters : (s.enroll template parent params).counters =
        (s.addClosure template parent).counters := by
      rw [enroll_eq]
      rfl
    rw [given_congr counters, given_addClosure]
    cases n <;> simp [NodeId.identity]
  accounts n := account_enroll template parent params n

end State

/-- What becomes of the accounts of a state, and the events that say so. -/
inductive Posting (s t : State κ) : List TraceEvent → Prop
  /-- Nothing, except that nodes may be gone. -/
  | kept {events : List TraceEvent} (keeps : s.Keeps events t) : Posting s t events
  /-- A new node is made. -/
  | opened {e : TraceEvent} {node : NodeId} {slot : Slot} {owner : Option ClosureId}
      (opens : s.Opens e node slot owner t) : Posting s t [e]
  /-- A live node is changed. -/
  | changed {e : TraceEvent} {node : NodeId} {a : Account} {slot : Slot}
      (alters : s.Alters e node a slot t) : Posting s t [e]

namespace Kernel

open State

/-- What becomes of the accounts is announced. -/
def Posts (k k' : Kernel κ) : Prop :=
  ∃ events, k'.told = k.told ++ events ∧ Posting k.toState k'.toState events

variable {k k' k₁ : Kernel κ} {order : EdgeOrder κ}

/-- Nothing of what accounts are about is different. -/
theorem Posts.kept {events : List TraceEvent} (told : k'.told = k.told ++ events)
    (silent : ∀ e ∈ events, e.isPosted = false) (counters : k'.counters = k.counters)
    (accounts : ∀ n a, k'.toState.account? n = some a → k.toState.account? n = some a) :
    k.Posts k' :=
  ⟨events, told, .kept ⟨silent, fun n => given_congr counters n.identity, accounts⟩⟩

/-- Neither the nodes nor the announcements are different. -/
theorem Posts.same (told : k'.told = k.told) (counters : k'.counters = k.counters)
    (datums : k'.datums = k.datums) (closures : k'.closures = k.closures) : k.Posts k' := by
  refine .kept (told.trans (List.append_nil _).symm) (by simp) counters fun n a h => ?_
  cases n with
  | datum d =>
    rw [account?, datums] at h
    exact h
  | closure c =>
    rw [account?, closures] at h
    exact h

theorem Posts.refl (k : Kernel κ) : k.Posts k := .same rfl rfl rfl rfl

/-- An entry that announces nothing changes no account. -/
theorem posts_note (k : Kernel κ) {o : Occurrence κ} (h : o.announced? = none) :
    k.Posts (k.note o) := by
  refine .same ?_ rfl rfl rfl
  simp [told_note, announcements, h]

/-- An announcement that tells of no account changes none. -/
theorem posts_emit (k : Kernel κ) {e : TraceEvent} (h : e.isPosted = false) :
    k.Posts (k.emit e) :=
  .kept (told_emit k e) (List.forall_mem_singleton.mpr h) rfl fun _ _ account => account

/-! New nodes and subscriptions. -/

/-- A new datum is announced with its account. -/
theorem posts_createNode (consistent : k.toState.Consistent) {typeName : String}
    {content : Content} {owner : Option ClosureId} {d : DatumId}
    (h : k.createNode typeName content owner = .ok (d, k')) : k.Posts k' := by
  obtain ⟨live, _, state⟩ := createNode_spec h
  have opens := opens_addDatum consistent.issued live typeName content
  exact ⟨_, told_of_history (history_createNode h), .opened (state ▸ opens)⟩

/-- A new closure is announced with its account, which holds its parameters. -/
theorem posts_found {template : String} {parent : Option ClosureId} {c : ClosureId}
    (params : List (String × Value)) (h : k.createClosure template parent = .ok (c, k')) :
    k.Posts (k'.setParams c params) := by
  have opens := k.toState.opens_enroll template parent params
  have told := told_of_history (history_createClosure h)
  exact ⟨_, told, .opened (toState_setParams params h ▸ opens)⟩

/-- A new closure without parameters is announced with its account. -/
theorem posts_createClosure {template : String} {parent : Option ClosureId} {c : ClosureId}
    (h : k.createClosure template parent = .ok (c, k')) : k.Posts k' := by
  obtain ⟨_, _, state⟩ := createClosure_spec h
  have opens := k.toState.opens_enroll template parent []
  rw [enroll_nil, ← state] at opens
  exact ⟨_, told_of_history (history_createClosure h), .opened opens⟩

/-- A new subscription changes no account. -/
theorem posts_subscribe {source target : NodeId} {selector : Selector} {code : κ}
    {id : SubscriptionId} (h : k.subscribe source target selector code = .ok (id, k')) :
    k.Posts k' := by
  obtain ⟨_, _, _, state, _⟩ := subscribe_spec h
  refine ⟨_, told_of_history (history_subscribe h),
    .kept ⟨List.forall_mem_singleton.mpr rfl, fun n => ?_, fun n a h => ?_⟩⟩
  · have given := given_addEdge (s := k.toState) source target selector code n.identity
    have same : k'.toState.Given n.identity ↔
        (k.toState.addEdge source target selector code).Given n.identity :=
      given_congr (by rw [state]; rfl) n.identity
    rw [same, given]
    cases n <;> simp [NodeId.identity]
  · rw [state] at h
    exact (account_addEdge source target selector code n).symm.trans h

/-! Removals. -/

/-- The removal of nodes and of subscriptions changes no account of those that survive. -/
theorem posts_removed {lost : SubscriptionId → Prop} {gone : NodeId → Prop}
    (state : k'.toState = (k.toState.dropEdges lost).dropNodes gone) (removes : k.Removes k') :
    k.Posts k' := by
  obtain ⟨cuts, cut⟩ := removes
  have told := told_of_history cut.history
  refine .kept told (fun e he => ?_) (by rw [state]; rfl) fun n a h => ?_
  · obtain ⟨o, ho, announces⟩ := List.mem_filterMap.mp he
    obtain ⟨e', he', rfl⟩ := List.mem_map.mp ho
    cases announces
    have removal := cut.removals e he'
    cases e <;> first | rfl | cases removal
  · rw [state] at h
    exact (account_dropEdges lost n).symm.trans (account_of_dropNodes h)

/-- The removal of a subscription changes no account. -/
theorem posts_removeEdge (indexed : k.toState.EdgesIndexed) (id : SubscriptionId) :
    k.Posts (k.removeEdge id) := by
  have state : (k.removeEdge id).toState =
      (k.toState.dropEdges (· = id)).dropNodes fun _ => False := by
    rw [toState_removeEdge indexed, dropNodes_none]
  exact posts_removed state (removes_removeEdge k id)

/-- The destruction of a datum changes no account of those that survive. -/
theorem posts_razeDatum (consistent : k.toState.Consistent) (order : EdgeOrder κ) (d : DatumId) :
    k.Posts (k.razeDatum order d) :=
  posts_removed (toState_razeDatum consistent.indexed consistent.forest.sound order d)
    (removes_razeDatum k order d)

/-- The destruction of a closure changes no account of those that survive. -/
theorem posts_raze (consistent : k.toState.Consistent) (order : EdgeOrder κ) (c : ClosureId) :
    k.Posts (k.raze order c) :=
  posts_removed (toState_raze consistent.indexed consistent.forest.sound order c)
    (removes_raze k order c)

/-! Mutations. -/

/-- A node is changed, and this is told. -/
theorem posts_mutates {e : TraceEvent} {node : NodeId} {a : Account} {change : Change} {slot : Slot}
    (was : k.toState.account? node = some a) (tells : e.Tells k.generation node a.slot slot)
    (mutates : k.toState.Mutates node change slot k'.toState)
    (history : k'.history = k.history ++ [.announced e]) : k.Posts k' := by
  have counters : k'.counters = k.counters := by rw [mutates.rest]
  exact ⟨[e], told_of_history history, .changed
    { was, tells
      given := fun n => given_congr counters n.identity
      here := mutates.account_here was
      above := fun _ owner => mutates.account_owner was owner
      other := fun _ other unowned => mutates.account_other was other unowned }⟩

/-- A datum is written, this is told, and it is delivered. -/
theorem posts_datum (consistent : k.toState.Consistent) {d : DatumId} {x : Datum}
    (hd : k.datums[d]? = some x) {content : Content} {status : Status} {e : TraceEvent}
    (tells : e.Tells k.generation (.datum d) (.datum x.content x.status) (.datum content status))
    (state : k₁.toState =
      k.toState.putDatum d ({ x with content, status }.touch k.generation))
    (history : k₁.history = k.history ++ [.announced e]) (change : Change) :
    k.Posts (k₁.datumChanged order d change) := by
  have same : k.toState.SameLinks k₁.toState := by
    rw [state]
    exact .putDatum hd rfl
  have quiet := (datumChanged_spec order (same.edgesIndexed consistent.indexed) d change).2.2
  exact posts_mutates (account_datum hd) tells
    (mutates_datum consistent hd content status change state) (quiet.trans history)

/-- A write to a field of a datum is announced as it is posted. -/
theorem posts_setDatumField (consistent : k.toState.Consistent) {d : DatumId} {field : String}
    {value : Value} {b : Bool} (h : k.setDatumField order d field value = .ok (b, k')) :
    k.Posts k' := by
  obtain ⟨x, hx, h⟩ := bind_eq_ok.mp h
  obtain ⟨fields, holds, h⟩ := bind_eq_ok.mp h
  simp only [pure, Except.pure] at h
  split at h
  · cases h
    exact .refl k
  · cases h
    have tells : TraceEvent.Tells k.generation
        (.fieldSet (.datum d) field ((fields[field]?).getD .null) value k.generation) (.datum d)
        (.datum x.content x.status) (.datum (.record (fields.insert field value)) x.status) := by
      rw [requireFields_ok.mp holds]
      exact .datumField d fields x.status field value
    refine posts_datum consistent (requireDatum_ok.mp hx) tells rfl ?_ _
    simp [announceField, history_log, LogEvent.isOfDrain]
    rfl

/-- A write to a field of a closure is announced as it is posted. -/
theorem posts_setClosureField (consistent : k.toState.Consistent) {c : ClosureId} {field : String}
    {value : Value} {b : Bool} (h : k.setClosureField order c field value = .ok (b, k')) :
    k.Posts k' := by
  obtain ⟨x, hx, h⟩ := bind_eq_ok.mp h
  simp only [pure, Except.pure] at h
  split at h
  · cases h
    exact .refl k
  · cases h
    have hc := requireClosure_ok.mp hx
    refine posts_mutates (account_closure hc)
      (.closureField c x.fields field value)
      (mutates_closure consistent hc (x.fields.insert field value) _ rfl) ?_
    rw [history_notify]
    simp [announceField, history_log, LogEvent.isOfDrain]
    rfl

/-- The replacement of the items of a collection is announced as it is posted. -/
theorem posts_replaceItems (consistent : k.toState.Consistent) {d : DatumId} {x : Datum}
    (hd : k.requireDatum d = .ok x) {old : List Value} (holds : x.requireItems d = .ok old)
    (items : List Value) : k.Posts (k.replaceItems order d x items) := by
  have tells : TraceEvent.Tells k.generation (.itemsSet d items.length k.generation) (.datum d)
      (.datum x.content x.status) (.datum (.collection items) x.status) := by
    rw [requireItems_ok.mp holds]
    exact .items d old items x.status
  let written := k.mapState
    (·.putDatum d ({ x with content := .collection items }.touch k.generation))
  have history := history_emit written (.itemsSet d items.length k.generation)
  exact posts_datum consistent (requireDatum_ok.mp hd) tells rfl history _

/-- A write to an item of a collection is announced as it is posted. -/
theorem posts_setItem (consistent : k.toState.Consistent) {d : DatumId} {index : Nat}
    {value : Value} {b : Bool} (h : k.setItem order d index value = .ok (b, k')) : k.Posts k' := by
  obtain ⟨x, hx, h⟩ := bind_eq_ok.mp h
  obtain ⟨items, holds, h⟩ := bind_eq_ok.mp h
  split at h
  · cases h
  · split at h
    · cases h
      exact .refl k
    · cases h
      exact posts_replaceItems consistent hx holds _

/-- The removal of an item of a collection is announced as it is posted. -/
theorem posts_removeItem (consistent : k.toState.Consistent) {d : DatumId} {index : Nat}
    {v : Value} (h : k.removeItem order d index = .ok (v, k')) : k.Posts k' := by
  obtain ⟨x, hx, h⟩ := bind_eq_ok.mp h
  obtain ⟨items, holds, h⟩ := bind_eq_ok.mp h
  split at h
  · cases h
  · cases h
    exact posts_replaceItems consistent hx holds _

/-- An update of a status is announced as it is posted. -/
theorem posts_updateStatus (consistent : k.toState.Consistent) (order : EdgeOrder κ) {d : DatumId}
    {x : Datum} (hd : k.requireDatum d = .ok x) (status : Status) :
    k.Posts (k.updateStatus order d x status).2 := by
  unfold updateStatus
  split
  · exact .refl k
  · refine posts_datum consistent (requireDatum_ok.mp hd) (.status d x.content x.status status) rfl
      ?_ _
    simp [history_log, LogEvent.isOfDrain]
    rfl

/-- Every command posts what it does. -/
theorem perform_posts (consistent : k.toState.Consistent) (c : Command κ) :
    k.Posts (c.perform order k).2 := by
  cases h : c.attempt order k with
  | error fault =>
    rw [Command.perform_of_error h]
    exact .refl k
  | ok done =>
    obtain ⟨reply, k'⟩ := done
    rw [Command.perform_of_ok h]
    cases c with
    | createDatum _ _ _ | createCollection _ _ _ => exact posts_createNode consistent h
    | createClosure _ _ => exact posts_createClosure h
    | subscribe _ _ _ _ => exact posts_subscribe h
    | unsubscribe id =>
      cases h
      exact posts_removeEdge consistent.indexed id
    | set node _ _ =>
      cases node with
      | datum d => exact posts_setDatumField consistent h
      | closure c => exact posts_setClosureField consistent h
    | setItems _ _ | pushItem _ _ =>
      obtain ⟨x, hx, h⟩ := bind_eq_ok.mp h
      obtain ⟨old, holds, h⟩ := bind_eq_ok.mp h
      cases h
      exact posts_replaceItems consistent hx holds _
    | setItem _ _ _ => exact posts_setItem consistent h
    | removeItem _ _ => exact posts_removeItem consistent h
    | setAvailability id a =>
      obtain ⟨x, hx, h⟩ := bind_eq_ok.mp h
      have done : (k.updateStatus order id x (x.status.withAvailability a)).2 = k' :=
        congrArg Prod.snd (Except.ok.inj h)
      exact done ▸ posts_updateStatus consistent order hx _
    | setError id payload =>
      obtain ⟨x, hx, h⟩ := bind_eq_ok.mp h
      have done : (k.updateStatus order id x (.failed (some payload))).2 = k' :=
        congrArg Prod.snd (Except.ok.inj h)
      exact done ▸ posts_updateStatus consistent order hx _
    | destroyDatum id =>
      obtain ⟨_, _, h⟩ := bind_eq_ok.mp h
      cases h
      exact posts_razeDatum consistent order id
    | destroyClosure id =>
      obtain ⟨_, _, h⟩ := bind_eq_ok.mp h
      cases h
      exact posts_raze consistent order id
    | putEvent event =>
      cases h
      exact .same (by simp [putEvent, told_note, announcements, Occurrence.announced?]) rfl rfl rfl
    | register name template =>
      cases h
      exact .same rfl rfl rfl rfl

/-- Drains post nothing. -/
theorem DrainAction.posts (h : k.DrainAction k') : k.Posts k' := by
  cases h with
  | emit e he =>
    refine posts_emit k ?_
    cases e <;> first | rfl | cases he
  | note o ho =>
    refine posts_note k ?_
    cases o <;> first | rfl | cases ho
  | reschedule s _ => exact .same rfl rfl rfl rfl

/-- A probe changes no account. -/
theorem posts_probe (p : Probe) (k : Kernel κ) : k.Posts (p.perform k).2 := by
  cases p with
  | remark text => exact posts_note k rfl
  | _ => exact .same rfl rfl rfl rfl

end Kernel

end ReactiveKernel
