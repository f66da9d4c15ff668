import Mathlib.Data.Finset.Card
import Mathlib.Data.Finset.Dedup
import ReactiveKernel.Proofs.State.EdgeRemoval

/-!
# Destruction takes out exactly the nodes below

Removing a datum takes out that node alone, and removing a closure takes out everything that is
below it, in whatever order the sets of subscriptions are walked. A closure empties its own
record before it goes on to its datums and children, so the states in between are no forests;
the soundness of the lists is what survives at every point and carries the recursion.
-/

namespace ReactiveKernel

variable {κ : Type}

namespace Closure

/-- A closure with nothing in its sets and lists. -/
def emptied (x : Closure) : Closure :=
  { x with outgoing := ∅, incoming := ∅, owned := [], children := [] }

/-- To forget a datum is to take it out of the list of owned datums. -/
theorem forget_datum (x : Closure) (d : DatumId) :
    x.forget (· = .datum d) = { x with owned := x.owned.filter (· != d) } := by
  simp [forget, bne, beq_eq_decide]

/-- To forget a closure is to take it out of the list of children. -/
theorem forget_closure (x : Closure) (c : ClosureId) :
    x.forget (· = .closure c) = { x with children := x.children.filter (· != c) } := by
  simp [forget, bne, beq_eq_decide]

end Closure

namespace State

variable {s : State κ}

/-- The state with the record of one closure changed, if one is named. -/
def amend (s : State κ) (holder : Option ClosureId) (f : Closure → Closure) : State κ :=
  { s with closures := s.closures.map fun c y => if holder = some c then f y else y }

/-- What is changed in the record of a holder is amended, if a holder is named. -/
theorem updateHolder_eq_amend (s : State κ) (holder : Option ClosureId) (f : Closure → Closure) :
    (match holder with
      | none => s
      | some c => s.updateClosure c f) = s.amend holder f := by
  cases holder with
  | none =>
    refine ext_closures (fun b => ?_) rfl
    simp [amend]
  | some c =>
    refine ext_closures (fun b => ?_) ?_
    · simp only [updateClosure_eq, getElem?_modify_eq_map, amend, Option.some.injEq,
        Std.ExtTreeMap.getElem?_map]
    · simp only [updateClosure_eq, amend]

/-- A datum is in no list but that of its owner. -/
theorem ListsSound.unlisted_datum (sound : s.ListsSound) {d : DatumId} {x : Datum}
    (hd : s.datums[d]? = some x) {c : ClosureId} {y : Closure} (hc : s.closures[c]? = some y)
    (other : ¬ x.owner = some c) : y.owned.filter (· != d) = y.owned := by
  rw [List.filter_eq_self]
  intro a ha
  simp only [bne_iff_ne, ne_eq]
  rintro rfl
  obtain ⟨z, hz, owner⟩ := sound.owned c y hc _ ha
  rw [hd] at hz
  cases hz
  exact other owner

/-- A closure is in no list but that of its parent. -/
theorem ListsSound.unlisted_closure (sound : s.ListsSound) {c : ClosureId} {x : Closure}
    (hc : s.closures[c]? = some x) {b : ClosureId} {y : Closure} (hb : s.closures[b]? = some y)
    (other : ¬ x.parent = some b) : y.children.filter (· != c) = y.children := by
  rw [List.filter_eq_self]
  intro a ha
  simp only [bne_iff_ne, ne_eq]
  rintro rfl
  obtain ⟨_, z, hz, parent⟩ := sound.children b y hb _ ha
  rw [hc] at hz
  cases hz
  exact other parent

/-- Striking a datum off the list of its owner strikes it off every list. -/
theorem disown_eq_dropNodes (sound : s.ListsSound) {d : DatumId} {x : Datum}
    (hd : s.datums[d]? = some x) {t : State κ}
    (ht : t = match x.owner with
      | none => s
      | some owner => s.updateClosure owner fun c => { c with owned := c.owned.filter (· != d) }) :
    ({ t with datums := t.datums.erase d } : State κ) = s.dropNodes (· = .datum d) := by
  rw [updateHolder_eq_amend] at ht
  subst ht
  refine ext_tables rfl rfl (fun a => ?_) (fun c => ?_) rfl rfl rfl rfl
  · rw [getElem?_datums_dropNodes, Std.ExtTreeMap.getElem?_erase]
    by_cases h : a = d
    · simp [h]
    · have h' : ¬ d = a := fun eq => h eq.symm
      simp [h, h', amend]
  · rw [getElem?_closures_dropNodes]
    simp only [amend, Std.ExtTreeMap.getElem?_map]
    cases hc : s.closures[c]? with
    | none => simp
    | some y =>
      have same : (if x.owner = some c then { y with owned := y.owned.filter (· != d) } else y) =
          { y with owned := y.owned.filter (· != d) } := by
        split
        · rfl
        · next other => rw [sound.unlisted_datum hd hc other]
      simp [same, Closure.forget_datum]

/-- Striking a closure off the list of its parent strikes it off every list. -/
theorem orphan_eq_dropNodes (sound : s.ListsSound) {c : ClosureId} {x : Closure}
    (hc : s.closures[c]? = some x) {t : State κ}
    (ht : t = match x.parent with
      | none => s
      | some p => s.updateClosure p fun y => { y with children := y.children.filter (· != c) }) :
    ({ t with closures := t.closures.erase c } : State κ) = s.dropNodes (· = .closure c) := by
  rw [updateHolder_eq_amend] at ht
  subst ht
  refine ext_tables rfl rfl (fun d => ?_) (fun b => ?_) rfl rfl rfl rfl
  · simp [getElem?_datums_dropNodes, amend]
  · rw [getElem?_closures_dropNodes, Std.ExtTreeMap.getElem?_erase]
    simp only [amend, Std.ExtTreeMap.getElem?_map]
    by_cases h : b = c
    · simp [h]
    · have h' : ¬ c = b := fun eq => h eq.symm
      cases hb : s.closures[b]? with
      | none => simp [h, h']
      | some y =>
        have same : (if x.parent = some b then { y with children := y.children.filter (· != c) }
            else y) = { y with children := y.children.filter (· != c) } := by
          split
          · rfl
          · next other => rw [sound.unlisted_closure hc hb other]
        simp [same, h, h', Closure.forget_closure]

/-- The subscriptions that touch a live datum are those in its two sets. -/
theorem touches_datum (indexed : s.EdgesIndexed) {d : DatumId} {x : Datum}
    (hd : s.datums[d]? = some x) (id : SubscriptionId) :
    s.Touches (· = .datum d) id ↔ id ∈ x.outgoing ∨ id ∈ s.edges.targeting d := by
  rw [← outgoing_datum hd, indexed.outgoing, indexed.targeting, Touches, ← exists_or]
  exact exists_congr fun e => and_or_left

/-- The subscriptions that touch a live closure are those in its two sets. -/
theorem touches_closure (indexed : s.EdgesIndexed) {c : ClosureId} {x : Closure}
    (hc : s.closures[c]? = some x) (id : SubscriptionId) :
    s.Touches (· = .closure c) id ↔ id ∈ x.outgoing ∨ id ∈ x.incoming := by
  rw [← outgoing_closure hc, ← incoming_closure hc, indexed.outgoing, indexed.incoming, Touches,
    ← exists_or]
  exact exists_congr fun e => and_or_left

/-- Listed nodes refer back to their closure when subscriptions are lost. -/
theorem ListsSound.dropEdges (sound : s.ListsSound) (gone : SubscriptionId → Prop) :
    (s.dropEdges gone).ListsSound := by
  constructor
  · intro c y hy d hd
    rw [getElem?_closures_dropEdges] at hy
    obtain ⟨x, hx, rfl⟩ := Option.map_eq_some_iff.mp hy
    obtain ⟨z, hz, owner⟩ := sound.owned c x hx d hd
    exact ⟨z.unlink gone, by rw [getElem?_datums_dropEdges, hz]; rfl, owner⟩
  · intro c y hy b hb
    rw [getElem?_closures_dropEdges] at hy
    obtain ⟨x, hx, rfl⟩ := Option.map_eq_some_iff.mp hy
    obtain ⟨younger, z, hz, parent⟩ := sound.children c x hx b hb
    exact ⟨younger, z.unlink gone, by rw [getElem?_closures_dropEdges, hz]; rfl, parent⟩

end State

namespace Kernel

open State

variable {k : Kernel κ}

/-- Removing a datum takes out that node. -/
theorem toState_razeDatum (indexed : k.toState.EdgesIndexed) (sound : k.toState.ListsSound)
    (order : EdgeOrder κ) (d : DatumId) :
    (k.razeDatum order d).toState = k.toState.without (· = .datum d) := by
  unfold razeDatum
  cases hd : k.datums[d]? with
  | none =>
    refine (without_dead indexed sound ?_).symm
    rintro node live rfl
    obtain ⟨x, hx⟩ := contains_datum.mp live
    rw [hd] at hx
    cases hx
  | some x =>
    simp only [toState_emit, toState_log, toState_mapState, toState_removeEdges indexed,
      List.mem_append, mem_walk, ← touches_datum indexed hd]
    have here : (k.toState.dropEdges (k.toState.Touches (· = .datum d))).datums[d]? =
        some (x.unlink (k.toState.Touches (· = .datum d))) := by
      rw [getElem?_datums_dropEdges, hd]
      rfl
    exact disown_eq_dropNodes (sound.dropEdges _) here rfl

/-- Removing several datums takes them out. -/
theorem toState_razeDatums (indexed : k.toState.EdgesIndexed) (sound : k.toState.ListsSound)
    (order : EdgeOrder κ) (ds : List DatumId) :
    (ds.foldl (fun k d => k.razeDatum order d) k).toState =
      k.toState.without fun node => ∃ d ∈ ds, node = .datum d := by
  induction ds generalizing k with
  | nil => simp [without_none indexed]
  | cons d ds ih =>
    have first := toState_razeDatum indexed sound order d
    have rest := ih (k := k.razeDatum order d) (by rw [first]; exact indexed.without _)
      (by rw [first]; exact sound.without _)
    rw [List.foldl_cons, rest, first, without_without]
    simp only [List.exists_mem_cons_iff]

end Kernel

namespace State

variable {s : State κ}

/-! How deep the recursion goes. -/

/-- The number of live closures that are not older than a closure. -/
def rank (s : State κ) (c : ClosureId) : Nat :=
  (s.closures.keys.toFinset.filter fun b => c.index ≤ b.index).card

/-- A rank is bounded by the number of live closures. -/
theorem rank_le_size (s : State κ) (c : ClosureId) : s.rank c ≤ s.closures.size := by
  calc s.rank c ≤ s.closures.keys.toFinset.card := Finset.card_filter_le _ _
    _ ≤ s.closures.keys.length := List.toFinset_card_le _
    _ = s.closures.size := Std.ExtTreeMap.length_keys

/-- A child has a smaller rank than its parent. -/
theorem rank_lt {c b : ClosureId} (live : c ∈ s.closures) (younger : c.index < b.index) :
    s.rank b < s.rank c := by
  refine Finset.card_lt_card ⟨?_, ?_⟩
  · intro a ha
    simp only [Finset.mem_filter] at ha ⊢
    exact ⟨ha.1, by omega⟩
  · intro sub
    have here : c ∈ s.closures.keys.toFinset.filter fun a => c.index ≤ a.index := by
      simp [live]
    have too_old := sub here
    simp only [Finset.mem_filter] at too_old
    omega

/-- A rank does not go up when closures are lost. -/
theorem rank_mono {t : State κ} (sub : ∀ c, c ∈ t.closures → c ∈ s.closures) (c : ClosureId) :
    t.rank c ≤ s.rank c := by
  refine Finset.card_le_card ?_
  intro a ha
  simp only [Finset.mem_filter, List.mem_toFinset, Std.ExtTreeMap.mem_keys] at ha ⊢
  exact ⟨sub a ha.1, ha.2⟩

/-- A rank does not go up when nodes are removed. -/
theorem rank_without_le (s : State κ) (gone : NodeId → Prop) (c : ClosureId) :
    (s.without gone).rank c ≤ s.rank c := by
  refine rank_mono (fun b hb => ?_) c
  obtain ⟨y, hy⟩ := exists_closure hb
  obtain ⟨_, x, hx, _⟩ := closures_without_eq_some.mp hy
  exact mem_closures hx

/-! What is below a closure while other nodes go. -/

/-- Whatever is listed below a closure is below it as well. -/
theorem ListsSound.cascades_below (sound : s.ListsSound) (c : ClosureId) :
    s.Cascades (s.Below c) := by
  constructor
  · intro b x hx h d hd
    exact h.trans (.owned hx hd)
  · intro b x hx h a ha
    obtain ⟨_, y, hy, _⟩ := sound.children b x hx a ha
    exact h.trans (.child hx ha (.self hy))

/-- What goes anyway does not matter for what is below a closure. -/
theorem below_without {gone : NodeId → Prop} (cascades : s.Cascades gone) (c : ClosureId)
    (node : NodeId) : gone node ∨ (s.without gone).Below c node ↔ gone node ∨ s.Below c node := by
  constructor
  · rintro (h | h)
    · exact .inl h
    · right
      induction h with
      | self hc =>
        obtain ⟨_, x, hx, _⟩ := closures_without_eq_some.mp hc
        exact .self hx
      | owned hc hd =>
        obtain ⟨_, x, hx, rfl⟩ := closures_without_eq_some.mp hc
        exact .owned hx (Closure.mem_owned_forget.mp hd).1
      | child hc hb _ ih =>
        obtain ⟨_, x, hx, rfl⟩ := closures_without_eq_some.mp hc
        exact .child hx (Closure.mem_children_forget.mp hb).1 ih
  · rintro (h | h)
    · exact .inl h
    · induction h with
      | @self c x hc =>
        by_cases gone_c : gone (.closure c)
        · exact .inl gone_c
        · exact .inr (.self (closures_without_eq_some.mpr ⟨gone_c, x, hc, rfl⟩))
      | @owned c x d hc hd =>
        by_cases gone_d : gone (.datum d)
        · exact .inl gone_d
        · have stays : ¬ gone (.closure c) := fun h => gone_d (cascades.owned c x hc h d hd)
          exact .inr (.owned (closures_without_eq_some.mpr ⟨stays, x, hc, rfl⟩)
            (Closure.mem_owned_forget.mpr ⟨hd, gone_d⟩))
      | @child c x b node hc hb _ ih =>
        rcases ih with gone_node | below
        · exact .inl gone_node
        · obtain ⟨y, hy⟩ := below.top_live
          have stays_b : ¬ gone (.closure b) := (closures_without_eq_some.mp hy).1
          have stays : ¬ gone (.closure c) := fun h => stays_b (cascades.children c x hc h b hb)
          exact .inr (.child (closures_without_eq_some.mpr ⟨stays, x, hc, rfl⟩)
            (Closure.mem_children_forget.mpr ⟨hb, stays_b⟩) below)

/-- Taking out what is below a closure, and then what is below others, takes out all of it. -/
theorem without_below_cons (sound : s.ListsSound) (c : ClosureId) (cs : List ClosureId) :
    ((s.without (s.Below c)).without fun node =>
      ∃ b ∈ cs, (s.without (s.Below c)).Below b node) =
        s.without fun node => ∃ b ∈ c :: cs, s.Below b node := by
  rw [without_without]
  congr 1
  funext node
  have same (b : ClosureId) := below_without (sound.cascades_below c) b node
  simp only [List.exists_mem_cons_iff, eq_iff_iff]
  constructor
  · rintro (h | ⟨b, hb, h⟩)
    · exact .inl h
    · exact ((same b).mp (.inr h)).imp id fun h => ⟨b, hb, h⟩
  · rintro (h | ⟨b, hb, h⟩)
    · exact .inl h
    · exact ((same b).mpr (.inr h)).imp id fun h => ⟨b, hb, h⟩

/-- What is below a closure depends only on the lists of closures that are not older. -/
theorem Below.of_lists {t : State κ} (sound : s.ListsSound) {c : ClosureId}
    (lists : ∀ (b : ClosureId) (x : Closure), c.index < b.index → s.closures[b]? = some x →
      ∃ y, t.closures[b]? = some y ∧ y.owned = x.owned ∧ y.children = x.children)
    {b : ClosureId} {node : NodeId} (younger : c.index < b.index) (h : s.Below b node) :
    t.Below b node := by
  induction h with
  | self hb =>
    obtain ⟨y, hy, _⟩ := lists _ _ younger hb
    exact .self hy
  | owned hb hd =>
    obtain ⟨y, hy, owned, _⟩ := lists _ _ younger hb
    exact .owned hy (owned ▸ hd)
  | child hb ha _ ih =>
    obtain ⟨y, hy, _, children⟩ := lists _ _ younger hb
    have below := ih (Nat.lt_trans younger (sound.children _ _ hb _ ha).1)
    exact .child hy (children ▸ ha) below

/-! Emptying the record of a closure. -/

/-- The state with the sets and lists of a closure emptied. -/
def emptyClosure (s : State κ) (c : ClosureId) : State κ := s.updateClosure c Closure.emptied

/-- The record of the emptied closure is empty, and all others stay as they are. -/
theorem getElem?_closures_emptyClosure (c b : ClosureId) :
    (s.emptyClosure c).closures[b]? = (s.closures[b]?).map fun x =>
      if c = b then x.emptied else x := by
  rw [emptyClosure, updateClosure_eq]
  exact getElem?_modify_eq_map s.closures c b _

/-- A closure is emptied in its record alone. -/
theorem emptyClosure_eq (c : ClosureId) :
    s.emptyClosure c = { s with closures := s.closures.modify c Closure.emptied } :=
  s.updateClosure_eq c Closure.emptied

/-- It does not matter whether a closure is emptied before or after a subscription is taken from its
ends. -/
theorem emptyClosure_atEnds (c : ClosureId) (source target : NodeId) (id : SubscriptionId) :
    (s.emptyClosure c).atEnds source target (·.erase id) =
      (s.atEnds source target (·.erase id)).emptyClosure c := by
  have empty : (∅ : SubscriptionSet).erase id = ∅ := Std.ExtTreeSet.ext_mem fun a => by simp
  refine ext_closures (fun b => ?_) (by simp only [emptyClosure_eq, atEnds])
  rw [getElem?_closures_atEnds, getElem?_closures_emptyClosure, getElem?_closures_emptyClosure,
    getElem?_closures_atEnds]
  cases s.closures[b]? with
  | none => rfl
  | some x =>
    by_cases h : c = b
    · simp [h, Closure.emptied, empty]
    · simp [h]

/-- A closure that was emptied and then removed was removed. -/
theorem dropNodes_emptyClosure (c : ClosureId) :
    (s.emptyClosure c).dropNodes (· = .closure c) = s.dropNodes (· = .closure c) := by
  refine ext_closures (fun b => ?_) (by simp only [emptyClosure_eq, dropNodes])
  rw [getElem?_closures_dropNodes, getElem?_closures_dropNodes, getElem?_closures_emptyClosure]
  by_cases h : c = b
  · simp [h]
  · have h' : ¬ b = c := fun eq => h eq.symm
    simp [h, h']

/-- It does not matter whether a closure is emptied before or after nodes are removed. -/
theorem emptyClosure_without (c : ClosureId) (gone : NodeId → Prop) :
    (s.emptyClosure c).without gone = (s.without gone).emptyClosure c := by
  have touched : (s.emptyClosure c).Touches gone = s.Touches gone := by
    funext id
    simp only [Touches, emptyClosure_eq]
  have empty (lost : SubscriptionId → Prop) : (∅ : SubscriptionSet).without lost = ∅ :=
    SubscriptionSet.without_eq_self (by simp)
  rw [without, without, touched]
  refine ext_closures (fun b => ?_) (by simp only [emptyClosure_eq, dropNodes, dropEdges])
  rw [getElem?_closures_emptyClosure, getElem?_closures_dropNodes, getElem?_closures_dropNodes,
    getElem?_closures_dropEdges, getElem?_closures_dropEdges, getElem?_closures_emptyClosure]
  cases s.closures[b]? with
  | none => simp
  | some x =>
    by_cases hg : gone (.closure b)
    · simp [hg]
    · by_cases h : c = b
      · simp [hg, h, Closure.emptied, Closure.unlink, Closure.forget, empty]
      · simp [hg, h]

end State

namespace Kernel

open State

/-- Removing a subscription does not care whether a record was emptied before. -/
theorem removeEdge_emptyClosure {k k' : Kernel κ} {c : ClosureId}
    (h : k'.toState = k.toState.emptyClosure c) (id : SubscriptionId) :
    (k'.removeEdge id).toState = (k.removeEdge id).toState.emptyClosure c := by
  have table : k'.edges = k.edges := by
    rw [h, emptyClosure_eq]
  unfold removeEdge
  rw [table]
  cases k.edges.subscriptions[id]? with
  | none => exact h
  | some e =>
    simp only [toState_emit, toState_mapState, unlinkEdge_eq, h, ← emptyClosure_atEnds]
    simp only [emptyClosure_eq]

/-- It does not matter whether a closure is emptied before or after subscriptions are removed. -/
theorem removeEdges_emptyClosure {k k' : Kernel κ} {c : ClosureId}
    (h : k'.toState = k.toState.emptyClosure c) (ids : List SubscriptionId) :
    (k'.removeEdges ids).toState = (k.removeEdges ids).toState.emptyClosure c := by
  unfold removeEdges
  induction ids generalizing k k' with
  | nil => exact h
  | cons id ids ih => exact ih (removeEdge_emptyClosure h id)

end Kernel

namespace State

variable {s : State κ}

/-- The same nodes are live when a closure is emptied. -/
theorem contains_emptyClosure (c : ClosureId) (node : NodeId) :
    (s.emptyClosure c).contains node = s.contains node := by
  rw [Bool.eq_iff_iff]
  cases node with
  | datum d => rw [contains_datum, contains_datum, emptyClosure_eq]
  | closure b => simp [contains_closure, getElem?_closures_emptyClosure]

/-- No subscription goes out from the emptied closure, and those of other nodes stay as they are. -/
theorem mem_outgoing_emptyClosure {c : ClosureId} {node : NodeId} {id : SubscriptionId} :
    id ∈ (s.emptyClosure c).outgoing node ↔ node ≠ .closure c ∧ id ∈ s.outgoing node := by
  cases node with
  | datum d => simp [outgoing, emptyClosure_eq]
  | closure b =>
    simp only [outgoing, getElem?_closures_emptyClosure]
    by_cases h : c = b
    · cases s.closures[b]? <;> simp [h, Closure.emptied]
    · have h' : ¬ b = c := fun eq => h eq.symm
      cases s.closures[b]? <;> simp [h, h']

/-- No subscription comes in at the emptied closure, and those of other closures stay as they are.
-/
theorem mem_incoming_emptyClosure {c b : ClosureId} {id : SubscriptionId} :
    id ∈ (s.emptyClosure c).incoming b ↔ b ≠ c ∧ id ∈ s.incoming b := by
  simp only [incoming, getElem?_closures_emptyClosure]
  by_cases h : c = b
  · cases s.closures[b]? <;> simp [h, Closure.emptied]
  · have h' : ¬ b = c := fun eq => h eq.symm
    cases s.closures[b]? <;> simp [h, h']

/-- Once its subscriptions are dropped, the sets of a closure are empty, so emptying its record
keeps the indexes. -/
theorem EdgesIndexed.emptyClosure (indexed : s.EdgesIndexed) {c : ClosureId}
    (untouched : ∀ id, ¬ s.Touches (· = .closure c) id) : (s.emptyClosure c).EdgesIndexed := by
  have table : (s.emptyClosure c).edges = s.edges := by rw [emptyClosure_eq]
  refine ⟨?_, ?_, ?_, ?_, ?_, ?_, ?_, ?_⟩
  · intro node id
    rw [mem_outgoing_emptyClosure, indexed.outgoing, table]
    constructor
    · rintro ⟨_, h⟩
      exact h
    · rintro ⟨e, he, rfl⟩
      exact ⟨fun eq => untouched id ⟨e, he, .inl eq⟩, e, he, rfl⟩
  · intro b id
    rw [mem_incoming_emptyClosure, indexed.incoming, table]
    constructor
    · rintro ⟨_, h⟩
      exact h
    · rintro ⟨e, he, ends⟩
      exact ⟨fun eq => untouched id ⟨e, he, .inr (eq ▸ ends)⟩, e, he, ends⟩
  · rw [table]
    exact indexed.targeting
  · rw [table]
    exact indexed.targeted
  · intro id e h
    rw [contains_emptyClosure]
    exact indexed.source_live id e (table ▸ h)
  · intro id e h
    rw [contains_emptyClosure]
    exact indexed.target_live id e (table ▸ h)
  · rw [table]
    exact indexed.functions
  · rw [table]
    exact indexed.callback_injective

/-- Listed nodes refer back to their closure when a closure is emptied. -/
theorem ListsSound.emptyClosure (sound : s.ListsSound) (c : ClosureId) :
    (s.emptyClosure c).ListsSound := by
  constructor
  · intro b y hy d hd
    rw [getElem?_closures_emptyClosure] at hy
    obtain ⟨x, hx, rfl⟩ := Option.map_eq_some_iff.mp hy
    have listed : d ∈ x.owned := by
      split at hd
      · simp [Closure.emptied] at hd
      · exact hd
    rw [emptyClosure_eq]
    exact sound.owned b x hx d listed
  · intro b y hy a ha
    rw [getElem?_closures_emptyClosure] at hy
    obtain ⟨x, hx, rfl⟩ := Option.map_eq_some_iff.mp hy
    have listed : a ∈ x.children := by
      split at ha
      · simp [Closure.emptied] at ha
      · exact ha
    obtain ⟨younger, z, hz, parent⟩ := sound.children b x hx a listed
    refine ⟨younger, if c = a then z.emptied else z, ?_, ?_⟩
    · rw [getElem?_closures_emptyClosure, hz]
      rfl
    · split
      · exact parent
      · exact parent

/-- What is below a live closure, one level down. -/
theorem below_iff {c : ClosureId} {x : Closure} (hc : s.closures[c]? = some x) (node : NodeId) :
    s.Below c node ↔ node = .closure c ∨
      (∃ d ∈ x.owned, node = .datum d) ∨ ∃ b ∈ x.children, s.Below b node := by
  constructor
  · intro h
    cases h with
    | self _ => exact .inl rfl
    | owned hx hd =>
      rw [hc] at hx
      cases hx
      exact .inr (.inl ⟨_, hd, rfl⟩)
    | child hx hb below =>
      rw [hc] at hx
      cases hx
      exact .inr (.inr ⟨_, hb, below⟩)
  · rintro (rfl | ⟨d, hd, rfl⟩ | ⟨b, hb, below⟩)
    · exact .self hc
    · exact .owned hc hd
    · exact .child hc hb below

/-- Emptying the record of a closure does not matter for what is below a younger one. -/
theorem below_emptyClosure (sound : s.ListsSound) (gone : SubscriptionId → Prop)
    {c b : ClosureId} (younger : c.index < b.index) (node : NodeId) :
    ((s.dropEdges gone).emptyClosure c).Below b node ↔ s.Below b node := by
  have entry (a : ClosureId) (h : c.index < a.index) :
      ((s.dropEdges gone).emptyClosure c).closures[a]? =
        (s.closures[a]?).map (Closure.unlink gone) := by
    have ne : ¬ c = a := fun eq => by simp [eq] at h
    simp [getElem?_closures_emptyClosure, getElem?_closures_dropEdges, ne, Function.comp_def]
  constructor
  · refine Below.of_lists ((sound.dropEdges gone).emptyClosure c) ?_ younger
    intro a y h hy
    rw [entry a h] at hy
    obtain ⟨x, hx, rfl⟩ := Option.map_eq_some_iff.mp hy
    exact ⟨x, hx, rfl, rfl⟩
  · refine Below.of_lists sound ?_ younger
    intro a x h hx
    exact ⟨x.unlink gone, by rw [entry a h, hx]; rfl, rfl, rfl⟩

/-- Dropping the subscriptions of a set of nodes, taking out others and then the records of the
set is taking out all of them. -/
theorem dropNodes_without_dropEdges (A B : NodeId → Prop) :
    ((s.dropEdges (s.Touches A)).without B).dropNodes A =
      s.without fun node => A node ∨ B node := by
  calc ((s.dropEdges (s.Touches A)).without B).dropNodes A
      = (((s.dropEdges (s.Touches A)).dropEdges
          ((s.without A).Touches B)).dropNodes B).dropNodes A := rfl
    _ = (((s.dropEdges (s.Touches A)).dropEdges
          ((s.without A).Touches B)).dropNodes A).dropNodes B := by
        rw [dropNodes_dropNodes, dropNodes_dropNodes]
        simp only [or_comm]
    _ = (s.without A).without B := by
        rw [← dropNodes_dropEdges]
        rfl
    _ = s.without fun node => A node ∨ B node := s.without_without A B

/-- The state when a closure has emptied its record and lost its subscriptions. -/
noncomputable def sever (s : State κ) (c : ClosureId) : State κ :=
  (s.dropEdges (s.Touches (· = .closure c))).emptyClosure c

/-- Subscriptions are indexed when a closure is severed from them. -/
theorem EdgesIndexed.sever (indexed : s.EdgesIndexed) (c : ClosureId) : (s.sever c).EdgesIndexed :=
  (indexed.dropEdges _).emptyClosure (not_touches_dropEdges _)

/-- Listed nodes refer back to their closure when a closure is severed from its subscriptions. -/
theorem ListsSound.sever (sound : s.ListsSound) (c : ClosureId) : (s.sever c).ListsSound :=
  (sound.dropEdges _).emptyClosure c

/-- No closure is new when one is severed from its subscriptions. -/
theorem closures_of_sever {c a : ClosureId} (h : a ∈ (s.sever c).closures) : a ∈ s.closures := by
  obtain ⟨y, hy⟩ := exists_closure h
  rw [State.sever, getElem?_closures_emptyClosure, getElem?_closures_dropEdges] at hy
  cases hx : s.closures[a]? with
  | none => simp [hx] at hy
  | some z => exact mem_closures hx

/-- The datums in the list of a closure. -/
def Listed (x : Closure) (node : NodeId) : Prop := ∃ d ∈ x.owned, node = .datum d

/-- Datums list nothing, so no more is lost with those in a list. -/
theorem cascades_listed (s : State κ) (x : Closure) : s.Cascades (Listed x) :=
  ⟨fun _ _ _ h => by simp [Listed] at h, fun _ _ _ h => by simp [Listed] at h⟩

/-- What is below the children of a closure when it has emptied its record and lost its
subscriptions and its datums. -/
def BelowChildren (s : State κ) (c : ClosureId) (x : Closure) (node : NodeId) : Prop :=
  ∃ b ∈ x.children, ((s.sever c).without (Listed x)).Below b node

section

variable {c : ClosureId} {x : Closure}

/-- What is below a child does not depend on what the closure has lost. -/
theorem listed_or_below_child (sound : s.ListsSound) (hc : s.closures[c]? = some x) {b : ClosureId}
    (hb : b ∈ x.children) (node : NodeId) :
    Listed x node ∨ ((s.sever c).without (Listed x)).Below b node ↔
      Listed x node ∨ s.Below b node := by
  rw [below_without ((s.sever c).cascades_listed x),
    ← below_emptyClosure sound (s.Touches (· = .closure c)) (sound.children c x hc b hb).1]
  rfl

/-- A closure, its datums and what is below its children is what is below the closure. -/
theorem belowChildren_iff (sound : s.ListsSound) (hc : s.closures[c]? = some x) (node : NodeId) :
    (node = .closure c ∨ Listed x node ∨ s.BelowChildren c x node) ↔ s.Below c node := by
  rw [below_iff hc]
  refine or_congr_right ?_
  constructor
  · rintro (h | ⟨b, hb, h⟩)
    · exact .inl h
    · exact ((listed_or_below_child sound hc hb node).mp (.inr h)).imp id fun h => ⟨b, hb, h⟩
  · rintro (h | ⟨b, hb, h⟩)
    · exact .inl h
    · exact ((listed_or_below_child sound hc hb node).mpr (.inr h)).imp id fun h => ⟨b, hb, h⟩

/-- The record of a closure is still there when its datums and children are gone. -/
theorem record_belowChildren (sound : s.ListsSound) (hc : s.closures[c]? = some x) :
    ∃ y, ((s.sever c).without fun node => Listed x node ∨ s.BelowChildren c x node).closures[c]? =
      some y ∧ y.parent = x.parent := by
  have stays : ¬ (Listed x (.closure c) ∨ s.BelowChildren c x (.closure c)) := by
    rintro (h | ⟨b, hb, h⟩)
    · simp [Listed] at h
    · have older := h.index_le ((sound.sever c).without (Listed x))
      have younger := (sound.children c x hc b hb).1
      omega
  have record : (s.sever c).closures[c]? =
      some (x.unlink (s.Touches (· = .closure c))).emptied := by
    simp only [State.sever, getElem?_closures_emptyClosure, getElem?_closures_dropEdges, hc]
    simp
  exact ⟨_, closures_without_eq_some.mpr ⟨stays, _, record, rfl⟩, rfl⟩

/-- Then taking out its record as well takes out what is below the closure. -/
theorem dropNodes_belowChildren (sound : s.ListsSound) (hc : s.closures[c]? = some x) :
    ((s.sever c).without fun node => Listed x node ∨ s.BelowChildren c x node).dropNodes
      (· = .closure c) = s.without (s.Below c) := by
  let rest (node : NodeId) : Prop := Listed x node ∨ s.BelowChildren c x node
  calc ((s.sever c).without rest).dropNodes (· = .closure c)
      = (((s.dropEdges (s.Touches (· = .closure c))).without rest).emptyClosure c).dropNodes
          (· = .closure c) := by
        rw [← emptyClosure_without]
        rfl
    _ = s.without fun node => node = .closure c ∨ rest node := by
        rw [dropNodes_emptyClosure, dropNodes_without_dropEdges]
    _ = s.without (s.Below c) := by simp only [rest, belowChildren_iff sound hc]

end

end State

namespace Kernel

open State

variable {k : Kernel κ}

/-- Removing several closures takes out what is below them. -/
theorem toState_razeClosures {order : EdgeOrder κ} {fuel : Nat}
    (one : ∀ (k : Kernel κ) (c : ClosureId), k.toState.EdgesIndexed → k.toState.ListsSound →
      k.toState.rank c < fuel →
        (razeClosure order fuel k c).toState = k.toState.without (k.toState.Below c))
    (indexed : k.toState.EdgesIndexed) (sound : k.toState.ListsSound) (cs : List ClosureId)
    (enough : ∀ c ∈ cs, k.toState.rank c < fuel) :
    (cs.foldl (razeClosure order fuel) k).toState =
      k.toState.without fun node => ∃ c ∈ cs, k.toState.Below c node := by
  induction cs generalizing k with
  | nil => simp [without_none indexed]
  | cons c cs ih =>
    have first := one k c indexed sound (enough c (by simp))
    have rest := ih (k := razeClosure order fuel k c) (by rw [first]; exact indexed.without _)
      (by rw [first]; exact sound.without _) (by
        intro b hb
        rw [first]
        exact Nat.lt_of_le_of_lt (k.toState.rank_without_le _ b) (enough b (by simp [hb])))
    rw [List.foldl_cons, rest, first, without_below_cons sound]

/-- The kernel when a live closure has emptied its record and lost its subscriptions. -/
def severClosure (k : Kernel κ) (order : EdgeOrder κ) (c : ClosureId) (x : Closure) : Kernel κ :=
  ((k.mapState (·.putClosure c x.emptied)).removeEdges
    (k.walk order (.outgoing (.closure c)) x.outgoing)).removeEdges
    (k.walk order (.incoming c) x.incoming)

/-- A closure that is severed has lost what touches it, and its record is empty. -/
theorem toState_severClosure (indexed : k.toState.EdgesIndexed) {c : ClosureId}
    {x : Closure} (hc : k.closures[c]? = some x) (order : EdgeOrder κ) :
    (k.severClosure order c x).toState =
      (k.toState.dropEdges (k.toState.Touches (· = .closure c))).emptyClosure c := by
  have start : (k.mapState (·.putClosure c x.emptied)).toState = k.toState.emptyClosure c := by
    simp [emptyClosure, updateClosure, hc]
  rw [severClosure, removeEdges_emptyClosure (removeEdges_emptyClosure start _)]
  simp only [removeEdges, ← List.foldl_append]
  have dropped := toState_removeEdges indexed
    (k.walk order (.outgoing (.closure c)) x.outgoing ++ k.walk order (.incoming c) x.incoming)
  simp only [List.mem_append, mem_walk, ← touches_closure indexed hc] at dropped
  rw [← dropped]
  rfl

/-- The kernel when a live closure has emptied its record and lost its subscriptions and the
datums that it owned. -/
def clearClosure (k : Kernel κ) (order : EdgeOrder κ) (c : ClosureId) (x : Closure) : Kernel κ :=
  x.owned.foldl (fun k d => k.razeDatum order d) (k.severClosure order c x)

/-- The walk down from a live closure clears it, goes down to its children, and drops it. -/
theorem razeClosure_of_live {c : ClosureId} {x : Closure} (hc : k.closures[c]? = some x)
    (order : EdgeOrder κ) (fuel : Nat) :
    razeClosure order (fuel + 1) k c =
      (x.children.foldl (razeClosure order fuel) (k.clearClosure order c x)).dropClosure c
        x.parent := by
  simp only [razeClosure, hc]
  rfl

/-- Dropping the record of a closure takes out that node, if no subscription touches it. -/
theorem toState_dropClosure (sound : k.toState.ListsSound) {c : ClosureId} {x : Closure}
    (hc : k.closures[c]? = some x) {parent : Option ClosureId} (hp : x.parent = parent) :
    (k.dropClosure c parent).toState = k.toState.dropNodes (· = .closure c) := by
  subst hp
  simp only [dropClosure, toState_emit, toState_log, toState_mapState]
  exact orphan_eq_dropNodes sound hc rfl

/-- After the datums of a closure, its subscriptions and its lists, its children are still to go.
They count for less than the closure itself. -/
theorem toState_clearClosure (indexed : k.toState.EdgesIndexed) (sound : k.toState.ListsSound)
    {c : ClosureId} {x : Closure} (hc : k.closures[c]? = some x) (order : EdgeOrder κ) :
    (k.clearClosure order c x).toState = (k.toState.sever c).without (Listed x) := by
  have severed : (k.severClosure order c x).toState = k.toState.sever c :=
    toState_severClosure indexed hc order
  rw [clearClosure, toState_razeDatums (severed ▸ indexed.sever c) (severed ▸ sound.sever c),
    severed]
  rfl

/-- The children of a cleared closure have a smaller rank than it had. -/
theorem rank_clearClosure (indexed : k.toState.EdgesIndexed) (sound : k.toState.ListsSound)
    {c : ClosureId} {x : Closure} (hc : k.closures[c]? = some x) (order : EdgeOrder κ)
    {b : ClosureId} (hb : b ∈ x.children) :
    (k.clearClosure order c x).toState.rank b < k.toState.rank c := by
  have fewer : ((k.toState.sever c).without (Listed x)).rank b ≤ k.toState.rank b :=
    Nat.le_trans ((k.toState.sever c).rank_without_le (Listed x) b)
      (rank_mono (fun _ => closures_of_sever) b)
  have younger := (sound.children c x hc b hb).1
  rw [toState_clearClosure indexed sound hc order]
  exact Nat.lt_of_le_of_lt fewer (rank_lt (mem_closures hc) younger)

/-- Removing a closure takes out what is below it. -/
theorem toState_razeClosure (order : EdgeOrder κ) (fuel : Nat) (k : Kernel κ) (c : ClosureId)
    (indexed : k.toState.EdgesIndexed) (sound : k.toState.ListsSound)
    (enough : k.toState.rank c < fuel) :
    (razeClosure order fuel k c).toState = k.toState.without (k.toState.Below c) := by
  induction fuel generalizing k c with
  | zero => omega
  | succ fuel ih =>
    cases hc : k.closures[c]? with
    | none =>
      simp only [razeClosure, hc]
      refine (without_dead indexed sound fun node _ h => ?_).symm
      obtain ⟨x, hx⟩ := h.top_live
      rw [hc] at hx
      cases hx
    | some x =>
      have cleared := toState_clearClosure indexed sound hc order
      have enough' (b : ClosureId) (hb : b ∈ x.children) :
          (k.clearClosure order c x).toState.rank b < fuel := by
        have smaller := rank_clearClosure indexed sound hc order hb
        omega
      have state : (x.children.foldl (razeClosure order fuel) (k.clearClosure order c x)).toState =
          (k.toState.sever c).without
            fun node => Listed x node ∨ k.toState.BelowChildren c x node := by
        rw [toState_razeClosures ih (cleared ▸ (indexed.sever c).without _)
          (cleared ▸ (sound.sever c).without _) x.children enough', cleared, without_without]
        rfl
      obtain ⟨y, record, parent⟩ := record_belowChildren sound hc
      rw [razeClosure_of_live hc, toState_dropClosure (state ▸ (sound.sever c).without _)
        (state ▸ record) parent, state, dropNodes_belowChildren sound hc]

/-- With enough fuel, no more of it changes anything. -/
theorem razeClosure_fuel (order : EdgeOrder κ) (fuel : Nat) (k : Kernel κ) (c : ClosureId)
    (indexed : k.toState.EdgesIndexed) (sound : k.toState.ListsSound)
    (enough : k.toState.rank c < fuel) :
    razeClosure order (fuel + 1) k c = razeClosure order fuel k c := by
  induction fuel generalizing k c with
  | zero => omega
  | succ fuel ih =>
    have all (cs : List ClosureId) (k : Kernel κ) (indexed : k.toState.EdgesIndexed)
        (sound : k.toState.ListsSound) (enough : ∀ b ∈ cs, k.toState.rank b < fuel) :
        cs.foldl (razeClosure order (fuel + 1)) k = cs.foldl (razeClosure order fuel) k := by
      induction cs generalizing k with
      | nil => rfl
      | cons b cs rest =>
        have first := ih k b indexed sound (enough b (by simp))
        have state := toState_razeClosure order fuel k b indexed sound (enough b (by simp))
        rw [List.foldl_cons, List.foldl_cons, first]
        refine rest _ (state ▸ indexed.without _) (state ▸ sound.without _) fun a ha => ?_
        rw [state]
        exact Nat.lt_of_le_of_lt (k.toState.rank_without_le _ a) (enough a (by simp [ha]))
    cases hc : k.closures[c]? with
    | none => simp only [razeClosure, hc]
    | some x =>
      have cleared := toState_clearClosure indexed sound hc order
      rw [razeClosure_of_live hc, razeClosure_of_live hc,
        all x.children (k.clearClosure order c x) (cleared ▸ (indexed.sever c).without _)
          (cleared ▸ (sound.sever c).without _) fun b hb => ?_]
      have smaller := rank_clearClosure indexed sound hc order hb
      omega

/-- Any fuel beyond the number of closures is as good as the fuel that is used. -/
theorem razeClosure_eq_raze (indexed : k.toState.EdgesIndexed) (sound : k.toState.ListsSound)
    (order : EdgeOrder κ) (c : ClosureId) {fuel : Nat} (enough : k.closures.size < fuel) :
    razeClosure order fuel k c = k.raze order c := by
  induction enough with
  | refl => rfl
  | @step fuel more ih =>
    have size := k.toState.rank_le_size c
    rw [razeClosure_fuel order fuel k c indexed sound (Nat.lt_of_le_of_lt size more), ih]

/-- The destruction of a closure leaves the state without what is below it. -/
theorem toState_raze (indexed : k.toState.EdgesIndexed) (sound : k.toState.ListsSound)
    (order : EdgeOrder κ) (c : ClosureId) :
    (k.raze order c).toState = k.toState.without (k.toState.Below c) :=
  toState_razeClosure order _ k c indexed sound (Nat.lt_succ_of_le (k.toState.rank_le_size c))

end Kernel

end ReactiveKernel
