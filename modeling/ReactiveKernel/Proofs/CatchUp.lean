import ReactiveKernel.Execution.Drain
import ReactiveKernel.Proofs.Mutation
import ReactiveKernel.Proofs.Run.Step

/-!
# Subscribing before or after a change

A subscription that is made after its source has changed in the same generation has missed that
change and catches up: it is delivered in the next wave, as it is if it was made before the change.
A change that is carried to the source is not one of the source itself. Who subscribes after it
catches up only if the source has changed as well.
-/

namespace ReactiveKernel

variable {κ : Type}

namespace Command

variable {c : Command κ} {r r' : Except Fault c.Reply}

/-- Whichever answer it gets, a command makes the same change if it makes any. -/
theorem change_unique {x y : NodeId × Change} (h : c.change? r = some x)
    (h' : c.change? r' = some y) : x = y := by
  cases c <;> cases r <;> cases r' <;> simp_all [change?]

/-- What makes a change of a node is a mutation of that node. -/
theorem mutates_of_change {node : NodeId} {change : Change}
    (h : c.change? r = some (node, change)) : c.mutates? = some node := by
  cases c <;> cases r <;> simp_all [change?, mutates?]

end Command

namespace State

variable {s : State κ} {source target : NodeId} {selector : Selector} {code : κ}

/-- A new subscription writes nothing at the nodes. -/
theorem slot?_addEdge (selector : Selector) (code : κ) (n : NodeId) :
    (s.addEdge source target selector code).slot? n = s.slot? n := by
  cases n with
  | datum d =>
    have datums := getElem?_datums_atEnds (s := s) source target (·.insert s.nextSubscription) d
    refine (congrArg (Option.map _) datums).trans ?_
    rw [Option.map_map]
    refine congrArg (Option.map · _) (funext fun x => ?_)
    simp only [Function.comp_apply]
    split <;> rfl
  | closure b =>
    have closures := getElem?_closures_atEnds (s := s) source target (·.insert s.nextSubscription) b
    refine (congrArg (Option.map _) closures).trans ?_
    rw [Option.map_map]
    rfl

/-- The callback of a new subscription is found. -/
theorem callback?_addEdge : (s.addEdge source target selector code).edges.callback?
    s.nextSubscription = some (⟨source, target, selector, s.nextFunction⟩, code) := by
  simp [addEdge, EdgeTable.callback?, EdgeTable.insert]

end State

namespace Kernel

open State

variable {k k' m m' : Kernel κ} {order : EdgeOrder κ} {c : Command κ} {node source target : NodeId}
  {change : Change} {selector : Selector} {code : κ}

/-- A subscription is registered as it was asked for, and is in the wave that is taken next. -/
structure Awaits (k : Kernel κ) (id : SubscriptionId) (source target : NodeId)
    (selector : Selector) (code : κ) : Prop where
  /-- Its ends, its selector and its callback are these. -/
  registered : ∃ f, k.edges.callback? id = some (⟨source, target, selector, f⟩, code)
  /-- The next wave has it. -/
  next : id ∈ k.takeWave.1

/-- A registered subscription is in the wave that is taken next exactly if it is pending. -/
theorem awaits_iff {id : SubscriptionId} {f : FunctionId}
    (registered : k.edges.callback? id = some (⟨source, target, selector, f⟩, code)) :
    k.Awaits id source target selector code ↔ id ∈ k.schedule.pending := by
  rw [← Std.ExtTreeSet.mem_toList]
  exact ⟨Awaits.next, fun pending => ⟨⟨f, registered⟩, pending⟩⟩

/-- Subscribing succeeds if both ends are live. -/
theorem exists_subscribe (source_live : k.toState.contains source = true)
    (target_live : k.toState.contains target = true) (selector : Selector) (code : κ) :
    ∃ k', k.subscribe source target selector code = .ok (k.toState.nextSubscription, k') := by
  obtain ⟨n, stamp⟩ : ∃ n, k.toState.stamp? source = some n := by
    cases source with
    | datum d =>
      obtain ⟨x, hx⟩ := contains_datum.mp source_live
      exact ⟨_, congrArg (Option.map _) hx⟩
    | closure b =>
      obtain ⟨x, hx⟩ := contains_closure.mp source_live
      exact ⟨_, congrArg (Option.map _) hx⟩
  have changedAt := setGenerationOf_ok.mpr stamp
  have ends := (requireNode_ok (u := ())).mpr target_live
  exact ⟨_, bind_eq_ok.mpr ⟨n, changedAt, bind_eq_ok.mpr ⟨(), ends, rfl⟩⟩⟩

/-- A new subscription is registered as it was asked for. -/
theorem registered_subscribe {id : SubscriptionId}
    (made : k.subscribe source target selector code = .ok (id, k')) :
    k'.edges.callback? id = some (⟨source, target, selector, k.toState.nextFunction⟩, code) := by
  obtain ⟨_, _, rfl, state, _⟩ := subscribe_spec made
  rw [state]
  exact callback?_addEdge

/-- A new subscription is not pending before it is made. -/
theorem not_pending_next (consistent : k.toState.Consistent) :
    k.toState.nextSubscription ∉ k.schedule.pending := fun old =>
  Nat.lt_irrefl _ (consistent.issued.pending _ old)

/-- A change of a node leaves the nodes live and gives out no identity. -/
theorem Effect.keeps (effect : k.Effect (some (node, change)) m) :
    (∀ n, k.toState.contains n = true → m.toState.contains n = true) ∧
      m.toState.nextSubscription = k.toState.nextSubscription := by
  cases effect with
  | changed e _ _ announces live links settings generation draining stamps pending history =>
    refine ⟨fun n => links.tree.contains, ?_⟩
    simp only [nextSubscription, links.counters]

/-- Subscribing after a change: the new subscription catches up if the source is the node that has
changed, or if it had changed before in this generation. -/
theorem awaits_subscribe_after (consistent : k.toState.Consistent)
    (effect : k.Effect (some (node, change)) m) {id : SubscriptionId}
    (made : m.subscribe source target selector code = .ok (id, m')) :
    m'.Awaits id source target selector code ↔
      source = node ∨ k.toState.stamp? source = some k.generation := by
  have fresh := not_pending_next (effect.consistent consistent)
  rw [awaits_iff (registered_subscribe made)]
  obtain ⟨_, _, rfl, _, caught⟩ := subscribe_spec made
  cases effect with
  | changed e _ _ announces live links settings generation draining stamps pending history =>
    have now : m.generation = k.generation := generation
    rw [caught, stamps, now]
    by_cases same : source = node <;> simp [same, fresh]

/-- Subscribing before a change: the new subscription catches up if the source had changed before in
this generation, and otherwise it has to hear the change. -/
theorem awaits_change_after (consistent : k.toState.Consistent) {id : SubscriptionId}
    (made : k.subscribe source target selector code = .ok (id, m))
    (effect : m.Effect (some (node, change)) m') :
    m'.Awaits id source target selector code ↔
      k.toState.stamp? source = some k.generation ∨
        source = node ∧ selector.accepts change = true ∨
        ∃ b, k.toState.Owns b node ∧ source = .closure b ∧ selector.accepts .carried = true := by
  have fresh := not_pending_next consistent
  have registered := registered_subscribe made
  obtain ⟨_, _, rfl, state, caught⟩ := subscribe_spec made
  have tree : k.toState.SameTree m.toState := by
    have same := sameTree_addEdge k.toState source target selector code
    rw [state]
    exact ⟨same.datums, same.closures⟩
  have edge : m.edges.subscriptions[k.toState.nextSubscription]? =
      some ⟨source, target, selector, k.toState.nextFunction⟩ := callback_some registered
  cases effect with
  | changed e _ _ announces live links settings generation draining stamps pending history =>
    rw [← links.edges] at registered
    rw [awaits_iff registered, pending, caught]
    have owns (b : ClosureId) : m.toState.Owns b node ↔ k.toState.Owns b node :=
      ⟨tree.symm.owns, tree.owns⟩
    have matched (n : NodeId) (change : Change) :
        m.toState.Matches n change k.toState.nextSubscription ↔
          source = n ∧ selector.accepts change = true := by
      simp [Matches, edge]
    simp only [Hears, matched, owns, fresh, false_or, true_and]

/-- What changes a node changes it in the same way after a subscription was made. -/
theorem change_after_subscribe (consistent : k.toState.Consistent)
    (effective : c.change? (c.perform order k).1 = some (node, change)) {id : SubscriptionId}
    (made : k.subscribe source target selector code = .ok (id, m)) :
    c.change? (c.perform order m).1 = some (node, change) := by
  have on := Command.mutates_of_change effective
  have consistent' := (subscribe_effect k source target selector code made).consistent consistent
  obtain ⟨_, _, rfl, state, _⟩ := subscribe_spec made
  have slot : m.toState.slot? node = k.toState.slot? node := by
    rw [state]
    exact slot?_addEdge selector code node
  have now : k.Mutation c node (c.perform order k) := perform_mutation consistent on
  have later : m.Mutation c node (c.perform order m) := perform_mutation consistent' on
  generalize c.perform order k = result at now effective
  generalize c.perform order m = result' at later
  cases now with
  | refused fault _ => rw [c.change_error] at effective; cases effective
  | idle _ _ _ _ quiet => rw [quiet] at effective; cases effective
  | effective reply was asked fresh changes answers mutates =>
    cases later with
    | refused fault cannot => simp [slot, was, asked] at cannot
    | idle _ was' _ there _ =>
      cases (slot.symm.trans was').symm.trans was
      cases there.symm.trans fresh
    | effective reply' _ _ _ changes' _ _ =>
      rw [Command.change_unique changes' effective] at changes'
      exact changes'

/-- Subscribing to a source and a change, with no wave between them. Both orders succeed, and the
change is the same. If it is a change of the source itself that the selector accepts, then in both
orders the subscription is in the next wave. If it is carried to the source, then a subscription
that was made before it is there, and one that was made after it is there just if the source itself
had changed in this generation. -/
theorem subscribe_either_order (h : k.Reachable) (order : EdgeOrder κ) {c : Command κ}
    (effective : c.change? (c.perform order k).1 = some (node, change))
    (source_live : k.toState.contains source = true)
    (target_live : k.toState.contains target = true) (selector : Selector) (code : κ) :
    let id := k.toState.nextSubscription
    let subscribe : Command κ := .subscribe source target selector code
    let late := subscribe.perform order (c.perform order k).2
    let early := c.perform order (subscribe.perform order k).2
    (late.1 = .ok id ∧ (subscribe.perform order k).1 = .ok id ∧
      c.change? early.1 = some (node, change)) ∧
    (source = node → selector.accepts change = true →
      late.2.Awaits id source target selector code ∧
      early.2.Awaits id source target selector code) ∧
    ∀ b, source = .closure b → k.toState.Owns b node → selector.accepts .carried = true →
      early.2.Awaits id source target selector code ∧
      (late.2.Awaits id source target selector code ↔
        k.toState.stamp? source = some k.generation) := by
  have consistent := h.consistent
  have changed : k.Effect (c.change? (c.perform order k).1) (c.perform order k).2 :=
    perform_effect consistent c
  rw [effective] at changed
  obtain ⟨lives, same⟩ := changed.keeps
  obtain ⟨m, made⟩ := exists_subscribe (lives source source_live) (lives target target_live)
    selector code
  obtain ⟨n, first⟩ := exists_subscribe source_live target_live selector code
  have again := change_after_subscribe consistent effective first
  have consistent' := (subscribe_effect k source target selector code first).consistent consistent
  have changed' : n.Effect (c.change? (c.perform order n).1) (c.perform order n).2 :=
    perform_effect consistent' c
  rw [again] at changed'
  have made_eq : (Command.subscribe source target selector code).perform order
      (c.perform order k).2 = (.ok _, m) := Command.perform_of_ok made
  have first_eq : (Command.subscribe source target selector code).perform order k = (.ok _, n) :=
    Command.perform_of_ok first
  have after := awaits_subscribe_after consistent changed made
  have before := awaits_change_after consistent first changed'
  rw [same] at made_eq after
  simp only [made_eq, first_eq, after, before]
  refine ⟨⟨trivial, trivial, again⟩, fun own accepts => ⟨.inl own, .inr (.inl ⟨own, accepts⟩)⟩, ?_⟩
  intro b carries owns accepts
  have other : source ≠ node := by
    rintro rfl
    rw [carries] at owns
    exact not_owns_closure owns
  exact ⟨.inr (.inr ⟨b, owns, carries, accepts⟩), or_iff_right other⟩

/-- Host code that makes a closure with a datum, and lets a wave pass. -/
def laggingScript : Program Unit (Except Fault Unit) :=
  .command (.createClosure "Root" none) fun _ =>
  .command (.createDatum "Cell" [] (some ⟨0⟩)) fun _ =>
  .command (.subscribe (.datum ⟨0⟩) (.datum ⟨0⟩) .carried ()) fun _ =>
  .call .drain fun _ => .pure (.ok ())

/-- A host whose callbacks do nothing. -/
def passive : Host Unit where
  behave _ _ := .pure (.ok ())

/-- The kernel after that wave. Neither the closure nor its datum has changed since. -/
def lagging : Kernel Unit :=
  ((passive.execute 2 laggingScript (Kernel.create .standard .empty)).get rfl).2

theorem reachable_lagging : lagging.Reachable := by
  have run : passive.execute 2 laggingScript (Kernel.create .standard .empty) =
      some (.ok (), lagging) := rfl
  exact (passive.precedes_of_execute run).reachable

/-- A write to a field of the datum. -/
def laggingWrite : Command Unit := .set (.datum ⟨0⟩) "x" (.int 1)

/-- A subscription to the field is in the next wave in both orders, and a subscription to the owner
is there if it was made before the write. -/
theorem subscribe_either_order_lagging :
    let subscribe : Command Unit := .subscribe (.datum ⟨0⟩) (.closure ⟨0⟩) (.key "x") ()
    let carried : Command Unit := .subscribe (.closure ⟨0⟩) (.closure ⟨0⟩) .carried ()
    let written := (laggingWrite.perform .ascending lagging).2
    lagging.Reachable ∧
    laggingWrite.change? (laggingWrite.perform .ascending lagging).1 =
      some (.datum ⟨0⟩, .field "x") ∧
    (subscribe.perform .ascending written).2.Awaits ⟨1⟩ (.datum ⟨0⟩) (.closure ⟨0⟩) (.key "x") () ∧
    (laggingWrite.perform .ascending (subscribe.perform .ascending lagging).2).2.Awaits
      ⟨1⟩ (.datum ⟨0⟩) (.closure ⟨0⟩) (.key "x") () ∧
    (laggingWrite.perform .ascending (carried.perform .ascending lagging).2).2.Awaits
      ⟨1⟩ (.closure ⟨0⟩) (.closure ⟨0⟩) .carried () := by
  intro subscribe carried written
  have effective : laggingWrite.change? (laggingWrite.perform .ascending lagging).1 =
      some (.datum ⟨0⟩, .field "x") := rfl
  have datum : lagging.toState.contains (.datum ⟨0⟩) = true := by decide
  have closure : lagging.toState.contains (.closure ⟨0⟩) = true := by decide
  obtain ⟨_, own, _⟩ := subscribe_either_order reachable_lagging .ascending effective datum closure
    (.key "x") ()
  obtain ⟨late, early⟩ := own rfl rfl
  obtain ⟨_, _, carries⟩ := subscribe_either_order reachable_lagging .ascending effective closure
    closure .carried ()
  exact ⟨reachable_lagging, effective, late, early,
    (carries ⟨0⟩ rfl ⟨⟨0⟩, _, rfl, rfl, rfl⟩ rfl).1⟩

/-- A subscription to the owner that is made after the write is not in the next wave. -/
theorem subscribe_after_carried :
    let carried : Command Unit := .subscribe (.closure ⟨0⟩) (.closure ⟨0⟩) .carried ()
    let written := (laggingWrite.perform .ascending lagging).2
    lagging.Reachable ∧ lagging.toState.Owns ⟨0⟩ (.datum ⟨0⟩) ∧
    laggingWrite.change? (laggingWrite.perform .ascending lagging).1 =
      some (.datum ⟨0⟩, .field "x") ∧
    (carried.perform .ascending written).1 = .ok ⟨1⟩ ∧
    (carried.perform .ascending written).2.takeWave.1 = [] ∧
    (laggingWrite.perform .ascending
      (carried.perform .ascending lagging).2).2.takeWave.1 = [⟨1⟩] :=
  ⟨reachable_lagging, ⟨⟨0⟩, _, rfl, rfl, rfl⟩, rfl, rfl, rfl, rfl⟩

end Kernel

end ReactiveKernel
