import Mathlib.Data.List.Basic
import ReactiveKernel.Proofs.Effect.Issuance
import ReactiveKernel.Proofs.Ledger.Basic

/-!
# The graph that a trace tells of

A trace alone tells which nodes and subscriptions are there, with the type and the owner of each
datum, the template and the parent of each closure, and the ends and the selector of each
subscription. An event is admitted by what is there already: nothing is attached to a node that is
missing, and a node only goes when nothing refers to it any more.
-/

namespace ReactiveKernel

variable {κ : Type}

/-- What a trace says of a datum. -/
structure DatumEntry where
  /-- Name of its type. -/
  typeName : String
  /-- The closure that it was made for. -/
  owner : Option ClosureId
  deriving DecidableEq

/-- What a trace says of a closure. -/
structure ClosureEntry where
  /-- Name of its template. -/
  template : String
  /-- The closure that it was made under. -/
  parent : Option ClosureId
  deriving DecidableEq

/-- The nodes and the subscriptions that are there. -/
structure Graph where
  /-- The datums. -/
  datums : Std.ExtTreeMap DatumId DatumEntry
  /-- The closures. -/
  closures : Std.ExtTreeMap ClosureId ClosureEntry
  /-- The subscriptions. -/
  subscriptions : Std.ExtTreeMap SubscriptionId Listing

namespace Graph

/-- Nothing is there. -/
def empty : Graph := ⟨∅, ∅, ∅⟩

/-- The graph after an event. -/
def record (g : Graph) : TraceEvent → Graph
  | .datumCreated d typeName owner => { g with datums := g.datums.insert d ⟨typeName, owner⟩ }
  | .datumDestroyed d => { g with datums := g.datums.erase d }
  | .closureCreated c template parent =>
    { g with closures := g.closures.insert c ⟨template, parent⟩ }
  | .closureDestroyed c => { g with closures := g.closures.erase c }
  | .subscribed id source target selector =>
    { g with subscriptions := g.subscriptions.insert id ⟨source, target, selector⟩ }
  | .unsubscribed id => { g with subscriptions := g.subscriptions.erase id }
  | _ => g

/-- The graph that a trace ends with. -/
def replay (events : List TraceEvent) : Graph := events.foldl record empty

/-- A node is there. -/
def Has (g : Graph) : NodeId → Prop
  | .datum d => d ∈ g.datums
  | .closure c => c ∈ g.closures

/-- No subscription starts or ends at a node. -/
def Untouched (g : Graph) (node : NodeId) : Prop :=
  ∀ (id : SubscriptionId) (l : Listing), g.subscriptions[id]? = some l →
    l.source ≠ node ∧ l.target ≠ node

/-- No datum is owned by a closure, and no closure is below it. -/
def Childless (g : Graph) (c : ClosureId) : Prop :=
  (∀ (d : DatumId) (x : DatumEntry), g.datums[d]? = some x → x.owner ≠ some c) ∧
    ∀ (b : ClosureId) (x : ClosureEntry), g.closures[b]? = some x → x.parent ≠ some c

/-- An event refers to nothing but what is there, and a node that goes is referred to by nothing
that is there. -/
def Admits (g : Graph) : TraceEvent → Prop
  | .datumCreated _ _ holder | .closureCreated _ _ holder =>
    ∀ c, holder = some c → g.Has (.closure c)
  | .datumDestroyed d => g.Has (.datum d) ∧ g.Untouched (.datum d)
  | .closureDestroyed c => g.Has (.closure c) ∧ g.Untouched (.closure c) ∧ g.Childless c
  | .closureInstantiated c _ => g.Has (.closure c)
  | .fieldSet node .. => g.Has node
  | .itemsSet d .. | .availabilitySet d .. => g.Has (.datum d)
  | .subscribed _ source target _ => g.Has source ∧ g.Has target
  | .unsubscribed id | .notified id _ => id ∈ g.subscriptions
  | .drainStarted .. | .generationDrained .. | .drainFinished .. => True

/-- From a graph, events that are each admitted lead to another graph. -/
inductive Leads : Graph → List TraceEvent → Graph → Prop
  /-- Nothing has happened. -/
  | nil (g : Graph) : Leads g [] g
  /-- An event, and then further ones. -/
  | cons {g g' : Graph} {e : TraceEvent} {events : List TraceEvent} : g.Admits e →
    Leads (g.record e) events g' → Leads g (e :: events) g'

variable {g g' g'' : Graph} {e : TraceEvent} {events more before after : List TraceEvent}

/-- Events in a row lead from graph to graph. -/
theorem Leads.append (h : Leads g events g') (h' : Leads g' more g'') :
    Leads g (events ++ more) g'' := by
  induction h with
  | nil => exact h'
  | cons admits _ ih => exact .cons admits (ih h')

/-- One event leads to the graph after it if it is admitted. -/
theorem Leads.one (admits : g.Admits e) (same : g.record e = g') : Leads g [e] g' :=
  .cons admits (same ▸ .nil _)

/-- Where events lead is found by replaying them. -/
theorem Leads.foldl (h : Leads g events g') : events.foldl record g = g' := by
  induction h with
  | nil => rfl
  | cons _ _ ih => exact ih

/-- Each event is admitted by the graph of those before it. -/
theorem Leads.admits (h : Leads g (before ++ e :: after) g') :
    (before.foldl record g).Admits e := by
  induction before generalizing g with
  | nil =>
    cases h with
    | cons admits _ => exact admits
  | cons b before ih =>
    cases h with
    | cons _ rest => exact ih rest

/-- The events before one lead to the graph that admits it. -/
theorem Leads.earlier (h : Leads g (before ++ after) g') :
    Leads g before (before.foldl record g) := by
  induction before generalizing g with
  | nil => exact .nil g
  | cons b before ih =>
    cases h with
    | cons admits rest => exact .cons admits (ih rest)

end Graph

/-! What events are about. -/

namespace TraceEvent

/-- All identities that an event names. -/
def names : TraceEvent → List Identity
  | .datumCreated d _ owner => .datum d :: (owner.map Identity.closure).toList
  | .datumDestroyed d | .itemsSet d .. | .availabilitySet d .. => [.datum d]
  | .closureCreated c _ parent => .closure c :: (parent.map Identity.closure).toList
  | .closureInstantiated c _ | .closureDestroyed c => [.closure c]
  | .fieldSet node .. => [node.identity]
  | .subscribed id source target _ => [.subscription id, source.identity, target.identity]
  | .unsubscribed id | .notified id _ => [.subscription id]
  | .drainStarted .. | .generationDrained .. | .drainFinished .. => []

/-- The node that an event says is made, what it is made as, and what it is attached to. -/
def creates? : TraceEvent → Option (NodeId × String × Option ClosureId)
  | .datumCreated d typeName owner => some (.datum d, typeName, owner)
  | .closureCreated c template parent => some (.closure c, template, parent)
  | _ => none

/-- An event that creates a node makes its identity. -/
theorem made_of_creates {e : TraceEvent} {node : NodeId} {entry : String × Option ClosureId}
    (h : e.creates? = some (node, entry)) : e.made? = some node.identity := by
  cases e <;> cases h <;> rfl

end TraceEvent

namespace Graph

open TraceEvent

variable {g : Graph} {e : TraceEvent} {events before after : List TraceEvent} {i : Identity}

/-- An identity is that of a node or of a subscription that is there. -/
def Shows (g : Graph) : Identity → Prop
  | .datum d => d ∈ g.datums
  | .closure c => c ∈ g.closures
  | .subscription id => id ∈ g.subscriptions

/-- The identity of a node is shown if the node is there. -/
theorem shows_identity {node : NodeId} : g.Shows node.identity ↔ g.Has node := by
  cases node <;> rfl

/-- What an event names is there, or is made by it. -/
theorem Admits.names (admits : g.Admits e) (named : i ∈ e.names) :
    g.Shows i ∨ e.made? = some i := by
  cases e with
  | datumCreated d _ holder | closureCreated d _ holder =>
    rcases List.mem_cons.mp named with rfl | named
    · exact .inr rfl
    · obtain ⟨c, rfl, rfl⟩ := Option.map_eq_some_iff.mp (Option.mem_toList.mp named)
      exact .inl (admits c rfl)
  | subscribed id source target _ =>
    simp only [TraceEvent.names, List.mem_cons, List.not_mem_nil, or_false] at named
    rcases named with rfl | rfl | rfl
    · exact .inr rfl
    · exact .inl (shows_identity.mpr admits.1)
    · exact .inl (shows_identity.mpr admits.2)
  | fieldSet node _ _ _ _ =>
    rw [List.mem_singleton.mp named]
    exact .inl (shows_identity.mpr admits)
  | datumDestroyed _ | closureDestroyed _ =>
    rw [List.mem_singleton.mp named]
    exact .inl admits.1
  | itemsSet _ _ _ | availabilitySet _ _ _ | closureInstantiated _ _ | unsubscribed _
  | notified _ _ =>
    rw [List.mem_singleton.mp named]
    exact .inl admits
  | drainStarted _ _ | generationDrained _ _ | drainFinished _ _ _ => cases named

/-- What is there after an event was there before it, or is made by it. -/
theorem shows_record (h : (g.record e).Shows i) : g.Shows i ∨ e.made? = some i := by
  cases e with
  | datumCreated d _ _ | closureCreated d _ _ | subscribed d _ _ _ =>
    cases i <;> first
      | exact .inl h
      | exact (Std.ExtTreeMap.mem_insert.mp h).symm.imp id fun eq =>
          congrArg _ (congrArg _ (Std.LawfulEqCmp.compare_eq_iff_eq.mp eq))
  | datumDestroyed _ | closureDestroyed _ | unsubscribed _ =>
    cases i <;> first
      | exact .inl h
      | exact .inl (Std.ExtTreeMap.mem_erase.mp h).2
  | _ => exact .inl h

/-- What is there after some events was made by them. -/
theorem made_of_shows (h : (replay events).Shows i) : i ∈ events.filterMap made? := by
  induction events using List.reverseRecOn with
  | nil => cases i <;> exact absurd h Std.ExtTreeMap.not_mem_empty
  | append_singleton events e ih =>
    rw [replay, List.foldl_append] at h
    rw [List.filterMap_append, List.mem_append]
    rcases shows_record h with earlier | now
    · exact .inl (ih earlier)
    · exact .inr (by simp [now])

/-- In a trace that leads somewhere, whatever is named was made. -/
theorem Leads.made_of_names {g' : Graph} (h : Leads empty events g') {e : TraceEvent}
    (member : e ∈ events) (named : i ∈ e.names) : i ∈ events.filterMap made? := by
  obtain ⟨before, after, rfl⟩ := List.append_of_mem member
  rw [List.filterMap_append, List.mem_append]
  rcases h.admits.names named with there | now
  · exact .inl (made_of_shows there)
  · exact .inr (by simp [now])

/-- What a node was made as and what it is attached to, if it is there. -/
def lookup? (g : Graph) : NodeId → Option (String × Option ClosureId)
  | .datum d => (g.datums[d]?).map fun x => (x.typeName, x.owner)
  | .closure c => (g.closures[c]?).map fun x => (x.template, x.parent)

/-- A node that is created is found with what it was made as. -/
theorem lookup?_created {node : NodeId} {entry : String × Option ClosureId}
    (h : e.creates? = some (node, entry)) : (g.record e).lookup? node = some entry := by
  cases e <;> cases h <;> simp [record, lookup?]

/-- The entry of a node does not change unless it is made, though it may go. -/
theorem lookup?_record {node : NodeId} (other : e.made? ≠ some node.identity) :
    (g.record e).lookup? node = g.lookup? node ∨ (g.record e).lookup? node = none := by
  cases e with
  | datumCreated d _ _ =>
    refine .inl ?_
    cases node with
    | closure c => rfl
    | datum a =>
      have ne : ¬ d = a := fun eq => other (by rw [eq]; rfl)
      simp [record, lookup?, Std.ExtTreeMap.getElem?_insert, ne]
  | closureCreated c _ _ =>
    refine .inl ?_
    cases node with
    | datum d => rfl
    | closure b =>
      have ne : ¬ c = b := fun eq => other (by rw [eq]; rfl)
      simp [record, lookup?, Std.ExtTreeMap.getElem?_insert, ne]
  | datumDestroyed d =>
    cases node with
    | closure c => exact .inl rfl
    | datum a =>
      by_cases same : d = a <;> simp [record, lookup?, Std.ExtTreeMap.getElem?_erase, same]
  | closureDestroyed c =>
    cases node with
    | datum d => exact .inl rfl
    | closure b =>
      by_cases same : c = b <;> simp [record, lookup?, Std.ExtTreeMap.getElem?_erase, same]
  | _ => exact .inl (by cases node <;> rfl)

/-- What events do not make is made neither by the first of them nor by those after it. -/
theorem unmade_cons (h : i ∉ (e :: events).filterMap made?) :
    e.made? ≠ some i ∧ i ∉ events.filterMap made? := by
  simp only [List.mem_filterMap, List.mem_cons, exists_eq_or_imp, not_or] at h ⊢
  exact h

/-- A node that is not made again is found as it was, or is gone. -/
theorem lookup?_foldl (node : NodeId) (once : node.identity ∉ events.filterMap made?) :
    (events.foldl record g).lookup? node = g.lookup? node ∨
      (events.foldl record g).lookup? node = none := by
  induction events generalizing g with
  | nil => exact .inl rfl
  | cons e events ih =>
    obtain ⟨other, later⟩ := unmade_cons once
    rcases ih (g := g.record e) later with same | gone
    · rw [List.foldl_cons, same]
      exact lookup?_record other
    · exact .inr gone

/-- If nothing is made twice, a node that was made and is there is as it was made. -/
theorem lookup?_replayed (node : NodeId) (once : (events.filterMap made?).Nodup)
    (member : e ∈ events) {entry : String × Option ClosureId}
    (h : e.creates? = some (node, entry)) :
    (events.foldl record g).lookup? node = some entry ∨
      (events.foldl record g).lookup? node = none := by
  obtain ⟨before, after, rfl⟩ := List.append_of_mem member
  rw [List.filterMap_append, List.filterMap_cons_some (made_of_creates h)] at once
  have later := (List.nodup_cons.mp (List.nodup_append.mp once).2.1).1
  rw [List.foldl_append, List.foldl_cons]
  refine (lookup?_foldl node later).imp (fun same => ?_) id
  rw [same, lookup?_created h]

/-- What is not there stays away unless it is made. -/
theorem not_shows_foldl (gone : ¬ g.Shows i) (once : i ∉ events.filterMap made?) :
    ¬ (events.foldl record g).Shows i := by
  induction events generalizing g with
  | nil => exact gone
  | cons e events ih =>
    obtain ⟨other, later⟩ := unmade_cons once
    exact ih (fun there => (shows_record there).elim gone other) later

/-- A closure that is there stays until an event tells that it is destroyed. -/
theorem mem_closures_foldl {c : ClosureId} (there : c ∈ g.closures)
    (once : .closure c ∉ events.filterMap made?) :
    c ∈ (events.foldl record g).closures ↔ .closureDestroyed c ∉ events := by
  induction events generalizing g with
  | nil => exact iff_of_true there List.not_mem_nil
  | cons e events ih =>
    obtain ⟨_, later⟩ := unmade_cons once
    by_cases destroys : e = .closureDestroyed c
    · have gone : ¬ (g.record e).Shows (.closure c) := by
        rw [destroys]
        exact fun stays => (Std.ExtTreeMap.mem_erase.mp stays).1 Std.ReflCmp.compare_self
      refine iff_of_false (not_shows_foldl gone later) fun untold => untold ?_
      exact destroys ▸ List.mem_cons_self
    · have stays : c ∈ (g.record e).closures := by
        cases e with
        | closureCreated b _ _ => exact Std.ExtTreeMap.mem_insert.mpr (.inr there)
        | closureDestroyed b =>
          have ne : b ≠ c := fun eq => destroys (by rw [eq])
          refine Std.ExtTreeMap.mem_erase.mpr ⟨fun eq => ne ?_, there⟩
          exact Std.LawfulEqCmp.compare_eq_iff_eq.mp eq
        | _ => exact there
      rw [List.foldl_cons, ih stays later, List.mem_cons, not_or]
      exact ⟨fun rest => ⟨Ne.symm destroys, rest⟩, And.right⟩

end Graph

/-! The graph of a state. -/

namespace State

/-- The live nodes and the registered subscriptions of a state. -/
def graph (s : State κ) : Graph where
  datums := s.datums.map fun _ x => ⟨x.typeName, x.owner⟩
  closures := s.closures.map fun _ x => ⟨x.template, x.parent⟩
  subscriptions := s.edges.subscriptions.map fun _ e => e.listing

variable {s t : State κ}

/-- The graph of a state has the type and the owner of each live datum. -/
theorem getElem?_datums_graph (d : DatumId) :
    s.graph.datums[d]? = (s.datums[d]?).map fun x => ⟨x.typeName, x.owner⟩ :=
  Std.ExtTreeMap.getElem?_map

/-- The graph of a state has the template and the parent of each live closure. -/
theorem getElem?_closures_graph (c : ClosureId) :
    s.graph.closures[c]? = (s.closures[c]?).map fun x => ⟨x.template, x.parent⟩ :=
  Std.ExtTreeMap.getElem?_map

/-- The graph of a state has the listing of each registered subscription. -/
theorem getElem?_subscriptions_graph (id : SubscriptionId) :
    s.graph.subscriptions[id]? = (s.edges.subscriptions[id]?).map Subscription.listing :=
  Std.ExtTreeMap.getElem?_map

/-- The graph of a state has the live nodes. -/
theorem has_graph {node : NodeId} : s.graph.Has node ↔ s.contains node = true := by
  cases node <;> simp [Graph.Has, graph, contains, Std.ExtTreeMap.mem_map]

/-- A node that no registered subscription touches is untouched in the graph. -/
theorem untouched_graph {node : NodeId} (h : ∀ id, ¬ s.Touches (· = node) id) :
    s.graph.Untouched node := by
  intro id l hl
  rw [getElem?_subscriptions_graph] at hl
  obtain ⟨e, he, rfl⟩ := Option.map_eq_some_iff.mp hl
  exact ⟨fun eq => h id ⟨e, he, .inl eq⟩, fun eq => h id ⟨e, he, .inr eq⟩⟩

/-- A closure that nothing refers to is childless in the graph. -/
theorem childless_graph {c : ClosureId}
    (owned : ∀ (d : DatumId) (x : Datum), s.datums[d]? = some x → x.owner ≠ some c)
    (children : ∀ (b : ClosureId) (x : Closure), s.closures[b]? = some x → x.parent ≠ some c) :
    s.graph.Childless c := by
  constructor
  · intro d y hy
    rw [getElem?_datums_graph] at hy
    obtain ⟨x, hx, rfl⟩ := Option.map_eq_some_iff.mp hy
    exact owned d x hx
  · intro b y hy
    rw [getElem?_closures_graph] at hy
    obtain ⟨x, hx, rfl⟩ := Option.map_eq_some_iff.mp hy
    exact children b x hx

/-- Graphs with the same entries are equal. -/
theorem graph_eq {g : Graph} (datums : ∀ d : DatumId, s.graph.datums[d]? = g.datums[d]?)
    (closures : ∀ c : ClosureId, s.graph.closures[c]? = g.closures[c]?)
    (subscriptions : ∀ id : SubscriptionId, s.graph.subscriptions[id]? = g.subscriptions[id]?) :
    s.graph = g := by
  have hd := Std.ExtTreeMap.ext_getElem? datums
  have hc := Std.ExtTreeMap.ext_getElem? closures
  have hs := Std.ExtTreeMap.ext_getElem? subscriptions
  cases g
  cases hg : s.graph
  simp_all

/-- What happens to the ends of a subscription is not shown. -/
theorem graph_atEnds (source target : NodeId) (f : SubscriptionSet → SubscriptionSet) :
    (s.atEnds source target f).graph = s.graph := by
  refine graph_eq (fun d => ?_) (fun c => ?_) (fun _ => rfl)
  · rw [getElem?_datums_graph, getElem?_datums_graph, getElem?_datums_atEnds, Option.map_map]
    refine congrArg (Option.map · _) (funext fun x => ?_)
    simp only [Function.comp_apply]
    split <;> rfl
  · rw [getElem?_closures_graph, getElem?_closures_graph, getElem?_closures_atEnds, Option.map_map]
    rfl

/-! What creation adds to the graph. -/

/-- The graph records a new datum. -/
theorem graph_addDatum (typeName : String) (content : Content) (owner : Option ClosureId) :
    (s.addDatum typeName content owner).graph =
      s.graph.record (.datumCreated s.nextDatum typeName owner) := by
  refine graph_eq (fun d => ?_) (fun c => ?_) (fun _ => rfl)
  · rw [getElem?_datums_graph, getElem?_datums_addDatum, Graph.record,
      Std.ExtTreeMap.getElem?_insert, getElem?_datums_graph]
    by_cases h : s.nextDatum = d
    · simp [h, Datum.create]
    · simp [h]
  · rw [getElem?_closures_graph, getElem?_closures_addDatum, Option.map_map, Graph.record,
      getElem?_closures_graph]
    refine congrArg (Option.map · _) (funext fun x => ?_)
    simp only [Function.comp_apply]
    split <;> rfl

/-- The graph records a new closure. -/
theorem graph_addClosure (template : String) (parent : Option ClosureId) :
    (s.addClosure template parent).graph =
      s.graph.record (.closureCreated s.nextClosure template parent) := by
  refine graph_eq (fun _ => rfl) (fun c => ?_) (fun _ => rfl)
  rw [getElem?_closures_graph, getElem?_closures_addClosure, Graph.record,
    Std.ExtTreeMap.getElem?_insert, getElem?_closures_graph]
  by_cases h : s.nextClosure = c
  · simp [h, Closure.create]
  · simp only [h, Std.LawfulEqCmp.compare_eq_iff_eq, if_false, Option.map_map]
    refine congrArg (Option.map · _) (funext fun x => ?_)
    simp only [Function.comp_apply]
    split <;> rfl

/-- The graph records a new subscription. -/
theorem graph_addEdge (source target : NodeId) (selector : Selector) (code : κ) :
    (s.addEdge source target selector code).graph =
      s.graph.record (.subscribed s.nextSubscription source target selector) := by
  have nodes := s.graph_atEnds source target (·.insert s.nextSubscription)
  refine graph_eq (fun d => ?_) (fun c => ?_) (fun id => ?_)
  · exact congrArg (fun g => g.datums[d]?) nodes
  · exact congrArg (fun g => g.closures[c]?) nodes
  · rw [getElem?_subscriptions_graph, getElem?_subscriptions_addEdge, Graph.record,
      Std.ExtTreeMap.getElem?_insert, getElem?_subscriptions_graph]
    by_cases h : s.nextSubscription = id
    · simp [h, Subscription.listing]
    · simp [h]

end State

end ReactiveKernel
