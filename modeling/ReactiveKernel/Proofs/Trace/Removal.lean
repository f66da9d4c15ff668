import ReactiveKernel.Proofs.Trace.Telling

/-!
# Removals are told from the leaves up

When a node is announced to be gone, no subscription touches it any more, and a closure has lost its
datums and the closures below it. While a closure is removed its own record is empty already, so the
lists are complete only for the closures that are younger; this is what carries the recursion.
-/

namespace ReactiveKernel

variable {κ : Type}

namespace State

/-- A node that refers to an owner or a parent of at least some age is in the lists of that
closure. -/
structure CompleteFrom (s : State κ) (age : Nat) : Prop where
  /-- The owner of a datum is live and lists it. -/
  owner : ∀ (d : DatumId) (y : Datum), s.datums[d]? = some y → ∀ c, y.owner = some c →
    age ≤ c.index → ∃ x, s.closures[c]? = some x ∧ d ∈ x.owned
  /-- The parent of a closure is live and lists it. -/
  parent : ∀ (b : ClosureId) (y : Closure), s.closures[b]? = some y → ∀ c, y.parent = some c →
    age ≤ c.index → ∃ x, s.closures[c]? = some x ∧ b ∈ x.children

variable {s : State κ} {age : Nat}

/-- What is complete is complete from any age. -/
theorem ListsComplete.completeFrom (complete : s.ListsComplete) (age : Nat) :
    s.CompleteFrom age :=
  ⟨fun d y hy c owner _ => complete.owner d y hy c owner,
    fun b y hy c parent _ => complete.parent b y hy c parent⟩

/-- What is complete from an age is complete from a higher one. -/
theorem CompleteFrom.mono (complete : s.CompleteFrom age) {older : Nat} (le : age ≤ older) :
    s.CompleteFrom older :=
  ⟨fun d y hy c owner h => complete.owner d y hy c owner (Nat.le_trans le h),
    fun b y hy c parent h => complete.parent b y hy c parent (Nat.le_trans le h)⟩

/-- What is complete from an age is so when nodes are removed with all that they list. -/
theorem CompleteFrom.without (complete : s.CompleteFrom age) {gone : NodeId → Prop}
    (cascades : s.Cascades gone) : (s.without gone).CompleteFrom age := by
  constructor
  · intro d y hy c owner young
    obtain ⟨kept, z, hz, rfl⟩ := datums_without_eq_some.mp hy
    obtain ⟨x, hx, listed⟩ := complete.owner d z hz c owner young
    have stays : ¬ gone (.closure c) := fun h => kept (cascades.owned c x hx h d listed)
    exact ⟨_, closures_without_eq_some.mpr ⟨stays, x, hx, rfl⟩,
      Closure.mem_owned_forget.mpr ⟨listed, kept⟩⟩
  · intro b y hy c parent young
    obtain ⟨kept, z, hz, rfl⟩ := closures_without_eq_some.mp hy
    obtain ⟨x, hx, listed⟩ := complete.parent b z hz c parent young
    have stays : ¬ gone (.closure c) := fun h => kept (cascades.children c x hx h b listed)
    exact ⟨_, closures_without_eq_some.mpr ⟨stays, x, hx, rfl⟩,
      Closure.mem_children_forget.mpr ⟨listed, kept⟩⟩

/-- The entries of a state in which a closure has emptied its record. -/
theorem getElem?_closures_sever (c b : ClosureId) :
    (s.sever c).closures[b]? = (s.closures[b]?).map fun x =>
      if c = b then (x.unlink (s.Touches (· = .closure c))).emptied
      else x.unlink (s.Touches (· = .closure c)) := by
  rw [sever, getElem?_closures_emptyClosure, getElem?_closures_dropEdges, Option.map_map]
  rfl

/-- A datum loses the subscriptions that touch a closure that is severed. -/
theorem getElem?_datums_sever (c : ClosureId) (d : DatumId) :
    (s.sever c).datums[d]? = (s.datums[d]?).map (Datum.unlink (s.Touches (· = .closure c))) := by
  rw [sever, emptyClosure_eq, ← getElem?_datums_dropEdges]

/-- A closure that empties its record leaves the lists of younger ones complete. -/
theorem CompleteFrom.sever {c : ClosureId} (complete : s.CompleteFrom c.index) :
    (s.sever c).CompleteFrom (c.index + 1) := by
  have record {b : ClosureId} {x : Closure} (young : c.index + 1 ≤ b.index)
      (hx : s.closures[b]? = some x) :
      (s.sever c).closures[b]? = some (x.unlink (s.Touches (· = .closure c))) := by
    have ne : ¬ c = b := fun eq => by
      rw [eq] at young
      omega
    rw [getElem?_closures_sever, hx, Option.map_some, if_neg ne]
  constructor
  · intro d y hy o owner young
    rw [getElem?_datums_sever] at hy
    obtain ⟨z, hz, rfl⟩ := Option.map_eq_some_iff.mp hy
    obtain ⟨x, hx, listed⟩ := complete.owner d z hz o owner (Nat.le_of_succ_le young)
    exact ⟨_, record young hx, listed⟩
  · intro b y hy p parent young
    rw [getElem?_closures_sever] at hy
    obtain ⟨z, hz, rfl⟩ := Option.map_eq_some_iff.mp hy
    have up : z.parent = some p := by
      split at parent
      · exact parent
      · exact parent
    obtain ⟨x, hx, listed⟩ := complete.parent b z hz p up (Nat.le_of_succ_le young)
    exact ⟨_, record young hx, listed⟩

/-! What removal takes out of the graph. -/

/-- The graph stays as it is when lists of a closure are changed. -/
theorem graph_amend (holder : Option ClosureId) {f : Closure → Closure}
    (same : ∀ x, (f x).template = x.template ∧ (f x).parent = x.parent) :
    (s.amend holder f).graph = s.graph := by
  refine graph_eq (fun _ => rfl) (fun b => ?_) (fun _ => rfl)
  rw [getElem?_closures_graph, getElem?_closures_graph, amend, Std.ExtTreeMap.getElem?_map,
    Option.map_map]
  refine congrArg (Option.map · _) (funext fun x => ?_)
  simp only [Function.comp_apply]
  split
  · rw [(same x).1, (same x).2]
  · rfl

/-- The graph records the loss of a datum. -/
theorem graph_eraseDatum (s : State κ) (d : DatumId) :
    ({ s with datums := s.datums.erase d } : State κ).graph =
      s.graph.record (.datumDestroyed d) := by
  refine graph_eq (fun a => ?_) (fun _ => rfl) (fun _ => rfl)
  rw [getElem?_datums_graph, Graph.record, Std.ExtTreeMap.getElem?_erase,
    Std.ExtTreeMap.getElem?_erase, getElem?_datums_graph]
  split <;> rfl

/-- The graph records the loss of a closure. -/
theorem graph_eraseClosure (s : State κ) (c : ClosureId) :
    ({ s with closures := s.closures.erase c } : State κ).graph =
      s.graph.record (.closureDestroyed c) := by
  refine graph_eq (fun _ => rfl) (fun b => ?_) (fun _ => rfl)
  rw [getElem?_closures_graph, Graph.record, Std.ExtTreeMap.getElem?_erase,
    Std.ExtTreeMap.getElem?_erase, getElem?_closures_graph]
  split <;> rfl

/-- The graph records the loss of a subscription. -/
theorem graph_eraseEdge (s : State κ) (id : SubscriptionId) (e : Subscription) :
    ({ s with edges := s.edges.erase id e } : State κ).graph =
      s.graph.record (.unsubscribed id) := by
  refine graph_eq (fun _ => rfl) (fun _ => rfl) (fun a => ?_)
  rw [getElem?_subscriptions_graph, EdgeTable.erase, Graph.record, Std.ExtTreeMap.getElem?_erase,
    Std.ExtTreeMap.getElem?_erase, getElem?_subscriptions_graph]
  split <;> rfl

end State

namespace Kernel

open State

variable {k k' : Kernel κ} {order : EdgeOrder κ}

/-- The removal of a subscription is recounted. -/
theorem recounts_removeEdge (k : Kernel κ) (id : SubscriptionId) :
    k.Recounts (k.removeEdge id) := by
  unfold removeEdge
  cases he : k.edges.subscriptions[id]? with
  | none => exact .refl k
  | some e =>
    have admits : k.toState.graph.Admits (.unsubscribed id) := by
      refine Std.ExtTreeMap.mem_iff_isSome_getElem?.mpr ?_
      rw [getElem?_subscriptions_graph, he]
      rfl
    refine .told (l := []) admits (by simp) (by simp [Silent]) ?_ rfl ?_
    · rw [List.append_nil]
      exact journal_emit _ _
    · rw [toState_emit, toState_mapState, unlinkEdge_eq, graph_atEnds, graph_eraseEdge]

/-- The removals of subscriptions are recounted. -/
theorem recounts_removeEdges (k : Kernel κ) (ids : List SubscriptionId) :
    k.Recounts (k.removeEdges ids) :=
  .foldl recounts_removeEdge k ids

/-- A live datum is announced to be gone when no subscription touches it any more. -/
theorem recounts_razeDatum (indexed : k.toState.EdgesIndexed) (order : EdgeOrder κ)
    (d : DatumId) : k.Recounts (k.razeDatum order d) := by
  unfold razeDatum
  cases hd : k.datums[d]? with
  | none => exact .refl k
  | some x =>
    let severed := k.walk order (.outgoing (.datum d)) x.outgoing ++
      k.walk order (.targeting d) (k.edges.targeting d)
    have state : (k.removeEdges severed).toState =
        k.toState.dropEdges (k.toState.Touches (· = .datum d)) := by
      simp only [severed, toState_removeEdges indexed, List.mem_append, mem_walk,
        ← touches_datum indexed hd]
    have admits : (k.removeEdges severed).toState.graph.Admits (.datumDestroyed d) := by
      rw [state]
      refine ⟨has_graph.mpr ?_, untouched_graph (not_touches_dropEdges _)⟩
      rw [contains_dropEdges]
      exact contains_datum.mpr ⟨x, hd⟩
    refine (recounts_removeEdges k severed).trans (.told
      (l := [.logged (.datumDestroyed d)]) admits (List.forall_mem_singleton.mpr rfl)
      (List.forall_mem_singleton.mpr rfl) ?_ rfl ?_)
    · rw [← List.append_assoc]
      exact (journal_note _ _).trans (congrArg (· ++ _) (journal_emit _ _))
    · refine (graph_eraseDatum _ d).trans (congrArg (Graph.record · _) ?_)
      exact (congrArg State.graph (updateHolder_eq_amend _ x.owner _)).trans
        (graph_amend x.owner fun _ => ⟨rfl, rfl⟩)

/-- The destruction of datums is recounted. -/
theorem recounts_razeDatums (indexed : k.toState.EdgesIndexed) (sound : k.toState.ListsSound)
    (order : EdgeOrder κ) (ds : List DatumId) :
    k.Recounts (ds.foldl (fun k d => k.razeDatum order d) k) := by
  induction ds generalizing k with
  | nil => exact .refl k
  | cons d ds ih =>
    have state := toState_razeDatum indexed sound order d
    exact (recounts_razeDatum indexed order d).trans
      (ih (state ▸ indexed.without _) (state ▸ sound.without _))

/-- The loss of one closure is recounted if nothing refers to it. -/
theorem recounts_dropClosure {c : ClosureId} (parent : Option ClosureId)
    (admits : k.toState.graph.Admits (.closureDestroyed c)) :
    k.Recounts (k.dropClosure c parent) := by
  refine .told (l := [.logged (.closureDestroyed c)]) admits (List.forall_mem_singleton.mpr rfl)
    (List.forall_mem_singleton.mpr rfl) ?_ rfl ?_
  · rw [← List.append_assoc]
    exact (journal_note _ _).trans (congrArg (· ++ _) (journal_emit _ _))
  · refine (graph_eraseClosure _ c).trans (congrArg (Graph.record · _) ?_)
    exact (congrArg State.graph (updateHolder_eq_amend _ parent _)).trans
      (graph_amend parent fun _ => ⟨rfl, rfl⟩)

/-- When its datums and the closures below it are gone, nothing refers to a closure. -/
theorem admits_belowChildren {s : State κ} (sound : s.ListsSound) {c : ClosureId} {x : Closure}
    (hc : s.closures[c]? = some x) (complete : s.CompleteFrom c.index) :
    ((s.sever c).without fun node => Listed x node ∨ s.BelowChildren c x node).graph.Admits
      (.closureDestroyed c) := by
  have listed {a : ClosureId} {y : Closure} (ha : s.closures[a]? = some y) (same : a = c) :
      y = x := Option.some.inj (ha.symm.trans (same ▸ hc))
  refine ⟨?_, untouched_graph ?_, childless_graph ?_ ?_⟩
  · obtain ⟨y, record, _⟩ := record_belowChildren sound hc
    exact has_graph.mpr (contains_closure.mpr ⟨y, record⟩)
  · rintro id ⟨e, he, ends⟩
    obtain ⟨_, here⟩ := (EdgeTable.subscriptions_without_eq_some _).mp he
    rw [State.sever, emptyClosure_eq] at here
    exact not_touches_dropEdges (· = .closure c) id ⟨e, here, ends⟩
  · intro d y hy owner
    obtain ⟨stays, z, hz, rfl⟩ := datums_without_eq_some.mp hy
    rw [getElem?_datums_sever] at hz
    obtain ⟨w, hw, rfl⟩ := Option.map_eq_some_iff.mp hz
    obtain ⟨x', hx', member⟩ := complete.owner d w hw c owner (Nat.le_refl _)
    obtain rfl := listed hx' rfl
    exact stays (.inl ⟨d, member, rfl⟩)
  · intro b y hy parent
    obtain ⟨stays, z, hz, rfl⟩ := closures_without_eq_some.mp hy
    rw [getElem?_closures_sever] at hz
    obtain ⟨w, hw, rfl⟩ := Option.map_eq_some_iff.mp hz
    have up : w.parent = some c := by
      by_cases same : c = b
      · rw [if_pos same] at parent
        exact parent
      · rw [if_neg same] at parent
        exact parent
    obtain ⟨x', hx', member⟩ := complete.parent b w hw c up (Nat.le_refl _)
    obtain rfl := listed hx' rfl
    have below := (belowChildren_iff sound hc (.closure b)).mpr (.child hc member (.self hw))
    rcases below with same | gone
    · cases same
      exact absurd (sound.children c x' hc c member).1 (Nat.lt_irrefl _)
    · exact stays gone

/-- Removing several closures is told if removing one of them is. -/
theorem recounts_razeClosures {fuel age : Nat}
    (one : ∀ (k : Kernel κ) (c : ClosureId), k.toState.EdgesIndexed → k.toState.ListsSound →
      k.toState.CompleteFrom c.index → k.toState.rank c < fuel →
        k.Recounts (razeClosure order fuel k c))
    (indexed : k.toState.EdgesIndexed) (sound : k.toState.ListsSound)
    (complete : k.toState.CompleteFrom age) (cs : List ClosureId)
    (young : ∀ c ∈ cs, age ≤ c.index) (enough : ∀ c ∈ cs, k.toState.rank c < fuel) :
    k.Recounts (cs.foldl (razeClosure order fuel) k) := by
  induction cs generalizing k with
  | nil => exact .refl k
  | cons c cs ih =>
    have here := enough c (by simp)
    have state := toState_razeClosure order fuel k c indexed sound here
    have cascades := sound.cascades_below c
    have first := one k c indexed sound (complete.mono (young c (by simp))) here
    refine first.trans (ih (state ▸ indexed.without _) (state ▸ sound.without _)
      (state ▸ complete.without cascades) (fun b hb => young b (by simp [hb])) fun b hb => ?_)
    rw [state]
    exact Nat.lt_of_le_of_lt (k.toState.rank_without_le _ b) (enough b (by simp [hb]))

/-- The removal of a closure is told. -/
theorem recounts_razeClosure (order : EdgeOrder κ) (fuel : Nat) (k : Kernel κ) (c : ClosureId)
    (indexed : k.toState.EdgesIndexed) (sound : k.toState.ListsSound)
    (complete : k.toState.CompleteFrom c.index) (enough : k.toState.rank c < fuel) :
    k.Recounts (razeClosure order fuel k c) := by
  induction fuel generalizing k c with
  | zero => omega
  | succ fuel ih =>
    cases hc : k.closures[c]? with
    | none =>
      simp only [razeClosure, hc]
      exact .refl k
    | some x =>
      have severed := toState_severClosure indexed hc order
      have cleared := toState_clearClosure indexed sound hc order
      have enough' (b : ClosureId) (hb : b ∈ x.children) :
          (k.clearClosure order c x).toState.rank b < fuel := by
        have smaller := rank_clearClosure indexed sound hc order hb
        omega
      have indexed' : (k.clearClosure order c x).toState.EdgesIndexed :=
        cleared ▸ (indexed.sever c).without _
      have sound' : (k.clearClosure order c x).toState.ListsSound :=
        cleared ▸ (sound.sever c).without _
      have emptied : k.Recounts (k.mapState (·.putClosure c x.emptied)) :=
        .mapState k (graph_putClosure hc ⟨rfl, rfl⟩)
      have cut : k.Recounts (k.severClosure order c x) :=
        emptied.trans ((recounts_removeEdges _ _).trans (recounts_removeEdges _ _))
      have datums : (k.severClosure order c x).Recounts (k.clearClosure order c x) :=
        recounts_razeDatums (severed ▸ indexed.sever c) (severed ▸ sound.sever c) order x.owned
      have children : (k.clearClosure order c x).Recounts
          (x.children.foldl (razeClosure order fuel) (k.clearClosure order c x)) := by
        have complete' : (k.clearClosure order c x).toState.CompleteFrom (c.index + 1) :=
          cleared ▸ complete.sever.without (cascades_listed _ x)
        exact recounts_razeClosures ih indexed' sound' complete' x.children
          (fun b hb => (sound.children c x hc b hb).1) enough'
      have state : (x.children.foldl (razeClosure order fuel) (k.clearClosure order c x)).toState =
          (k.toState.sever c).without
            fun node => Listed x node ∨ k.toState.BelowChildren c x node := by
        rw [toState_razeClosures (toState_razeClosure order fuel) indexed' sound' x.children
          enough', cleared, without_without]
        rfl
      rw [razeClosure_of_live hc]
      refine cut.trans (datums.trans (children.trans (recounts_dropClosure x.parent ?_)))
      exact state ▸ admits_belowChildren sound hc complete

/-! Commands and actions. -/

/-- The destruction of a closure is recounted. -/
theorem recounts_raze (consistent : k.toState.Consistent) (order : EdgeOrder κ) (c : ClosureId) :
    k.Recounts (k.raze order c) :=
  recounts_razeClosure order _ k c consistent.indexed consistent.forest.sound
    (consistent.forest.complete.completeFrom _) (Nat.lt_succ_of_le (k.toState.rank_le_size c))

/-- Every command is recounted. -/
theorem recounts_perform (consistent : k.toState.Consistent) (order : EdgeOrder κ)
    (c : Command κ) : k.Recounts (c.perform order k).2 := by
  cases h : c.attempt order k with
  | error fault =>
    rw [Command.perform_of_error h]
    exact .refl k
  | ok done =>
    obtain ⟨reply, k'⟩ := done
    rw [Command.perform_of_ok h]
    cases c with
    | createDatum _ _ _ | createCollection _ _ _ => exact recounts_createNode h
    | createClosure _ _ => exact recounts_createClosure h
    | subscribe _ _ _ _ => exact recounts_subscribe h
    | unsubscribe id =>
      cases h
      exact recounts_removeEdge k id
    | set node _ _ =>
      cases node with
      | datum d => exact recounts_setDatumField h
      | closure c => exact recounts_setClosureField h
    | setItems d items | pushItem d item =>
      obtain ⟨x, hx, h⟩ := bind_eq_ok.mp h
      obtain ⟨_, _, h⟩ := bind_eq_ok.mp h
      cases h
      exact recounts_replaceItems order (requireDatum_ok.mp hx) _
    | setItem _ _ _ => exact recounts_setItem h
    | removeItem _ _ => exact recounts_removeItem h
    | setAvailability d _ | setError d _ =>
      obtain ⟨x, hx, h⟩ := bind_eq_ok.mp h
      have same := congrArg Prod.snd (Except.ok.inj h)
      exact same ▸ recounts_updateStatus order (requireDatum_ok.mp hx) _
    | destroyDatum d =>
      obtain ⟨_, _, h⟩ := bind_eq_ok.mp h
      cases h
      exact recounts_razeDatum consistent.indexed order d
    | destroyClosure c =>
      obtain ⟨_, _, h⟩ := bind_eq_ok.mp h
      cases h
      exact recounts_raze consistent order c
    | putEvent event =>
      cases h
      exact .trans (.mapState k rfl) (.note _ rfl rfl)
    | register name template =>
      cases h
      exact .of_graph rfl rfl rfl

/-- Parameters that are given to a closure are recounted. -/
theorem recounts_setParams (k : Kernel κ) (c : ClosureId) (params : List (String × Value)) :
    k.Recounts (k.setParams c params) :=
  .mapState k (graph_updateClosure c fun _ => ⟨rfl, rfl⟩)

/-- Every action is recounted. -/
theorem Action.recounts (consistent : k.toState.Consistent) (h : k.Action order k') :
    k.Recounts k' := by
  cases h with
  | command c => exact recounts_perform consistent order c
  | params c params => exact recounts_setParams k c params
  | takeEvents => exact .of_graph rfl rfl rfl
  | applying event => exact .note k rfl rfl
  | instantiated c template live =>
    obtain ⟨x, hx⟩ := exists_closure live
    exact .emit k (has_graph.mpr (contains_closure.mpr ⟨x, hx⟩)) rfl
  | log e he => exact .log k he

/-- What a drain does itself is told as well. -/
theorem DrainAction.narrates (h : k.DrainAction k') : ∃ entries, k.Narrates entries k' := by
  cases h with
  | emit e he registered =>
    refine ⟨_, narrates_emit k ?_ ?_⟩
    · cases e with
      | notified id g =>
        obtain ⟨s, hs⟩ := mem_subscriptions.mp (registered id g rfl)
        refine Std.ExtTreeMap.mem_iff_isSome_getElem?.mpr ?_
        rw [getElem?_subscriptions_graph, hs]
        rfl
      | drainStarted _ _ | generationDrained _ _ | drainFinished _ _ _ => trivial
      | _ => cases he
    · cases e <;> first | rfl | cases he
  | note o ho =>
    refine ⟨_, narrates_note k ?_⟩
    cases o <;> first | rfl | cases ho
  | reschedule s _ => exact ⟨[], (List.append_nil _).symm, rfl, .nil _⟩

end Kernel

end ReactiveKernel
