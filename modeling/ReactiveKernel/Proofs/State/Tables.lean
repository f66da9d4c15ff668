import Mathlib.Data.List.Basic
import ReactiveKernel.Kernel.Destruction

/-!
# Looking into the tables of a state

What each change of a record does to the tables, entry by entry, and when two states are equal.
-/

namespace ReactiveKernel

variable {κ : Type}

namespace SubscriptionSet

@[simp] theorem mem_filter {ids : SubscriptionSet} {p : SubscriptionId → Bool}
    {id : SubscriptionId} : id ∈ ids.filter p ↔ id ∈ ids ∧ p id = true := by
  rw [Std.ExtTreeSet.mem_filter]
  constructor
  · rintro ⟨h, hp⟩
    rw [Std.ExtTreeSet.get_eq] at hp
    exact ⟨h, hp⟩
  · rintro ⟨h, hp⟩
    exact ⟨h, by rwa [Std.ExtTreeSet.get_eq]⟩

/-- A set is empty if it has no members. -/
theorem isEmpty_iff {ids : SubscriptionSet} : ids.isEmpty = true ↔ ∀ id, id ∉ ids := by
  rw [Std.ExtTreeSet.isEmpty_iff]
  constructor
  · rintro rfl id
    exact Std.ExtTreeSet.not_mem_empty
  · intro h
    exact Std.ExtTreeSet.ext_mem fun id => by simp [h id]

/-- A set is not empty if it has a member. -/
theorem isEmpty_eq_false_iff {ids : SubscriptionSet} :
    ids.isEmpty = false ↔ ∃ id, id ∈ ids := by
  rw [← Bool.not_eq_true, isEmpty_iff]
  simp

end SubscriptionSet

namespace Kernel

/-- A walk meets exactly the members of its set. -/
@[simp] theorem mem_walk {k : Kernel κ} {order : EdgeOrder κ} {site : EdgeSite}
    {ids : SubscriptionSet} {id : SubscriptionId} : id ∈ k.walk order site ids ↔ id ∈ ids := by
  rw [walk, (order.perm k.toState site ids.toList).mem_iff, Std.ExtTreeSet.mem_toList]

/-- A subscription is registered if there is an entry of it. -/
theorem mem_subscriptions {t : EdgeTable κ} {id : SubscriptionId} :
    id ∈ t.subscriptions ↔ ∃ e, t.subscriptions[id]? = some e := by
  rw [Std.ExtTreeMap.mem_iff_isSome_getElem?, Option.isSome_iff_exists]

/-- The callback of a subscription is found with its entry. -/
theorem callback_some {t : EdgeTable κ} {id : SubscriptionId} {e : Subscription} {code : κ}
    (h : t.callback? id = some (e, code)) : t.subscriptions[id]? = some e := by
  obtain ⟨e', he, h⟩ := Option.bind_eq_some_iff.mp h
  obtain ⟨code', _, h⟩ := Option.bind_eq_some_iff.mp h
  cases h
  exact he

end Kernel

namespace State

/-- States with the same entries are equal. -/
theorem ext_tables {s t : State κ} (settings : s.settings = t.settings)
    (counters : s.counters = t.counters)
    (datums : ∀ d : DatumId, s.datums[d]? = t.datums[d]?)
    (closures : ∀ c : ClosureId, s.closures[c]? = t.closures[c]?)
    (edges : s.edges = t.edges) (schedule : s.schedule = t.schedule)
    (templates : s.templates = t.templates) (inbox : s.inbox = t.inbox) : s = t := by
  have hd : s.datums = t.datums := Std.ExtTreeMap.ext_getElem? datums
  have hc : s.closures = t.closures := Std.ExtTreeMap.ext_getElem? closures
  cases s
  cases t
  simp_all

/-- States with the same closures are equal if they are without them. -/
theorem ext_closures {s t : State κ} (closures : ∀ c : ClosureId, s.closures[c]? = t.closures[c]?)
    (rest : ({ s with closures := ∅ } : State κ) = { t with closures := ∅ }) : s = t := by
  have hc : s.closures = t.closures := Std.ExtTreeMap.ext_getElem? closures
  cases s
  cases t
  simp_all

variable (s : State κ)

/-- A closure is changed in its record alone. -/
theorem updateClosure_eq (id : ClosureId) (f : Closure → Closure) :
    s.updateClosure id f = { s with closures := s.closures.modify id f } := by
  unfold updateClosure
  split
  · next c h =>
    refine ext_tables rfl rfl (fun _ => rfl) ?_ rfl rfl rfl rfl
    intro a
    simp only [putClosure, Std.ExtTreeMap.getElem?_insert, Std.ExtTreeMap.getElem?_modify, h,
      Option.map_some]
  · next h =>
    refine ext_tables rfl rfl (fun _ => rfl) ?_ rfl rfl rfl rfl
    intro a
    by_cases eq : id = a
    · subst eq
      simp [h]
    · simp [Std.ExtTreeMap.getElem?_modify, eq]

/-- A datum is changed in its record alone. -/
theorem updateDatum_eq (id : DatumId) (f : Datum → Datum) :
    s.updateDatum id f = { s with datums := s.datums.modify id f } := by
  unfold updateDatum
  split
  · next d h =>
    refine ext_tables rfl rfl ?_ (fun _ => rfl) rfl rfl rfl rfl
    intro a
    simp only [putDatum, Std.ExtTreeMap.getElem?_insert, Std.ExtTreeMap.getElem?_modify, h,
      Option.map_some]
  · next h =>
    refine ext_tables rfl rfl ?_ (fun _ => rfl) rfl rfl rfl rfl
    intro a
    by_cases eq : id = a
    · subst eq
      simp [h]
    · simp [Std.ExtTreeMap.getElem?_modify, eq]

/-- The state with the sets at the two ends of a subscription changed. -/
def atEnds (source target : NodeId) (f : SubscriptionSet → SubscriptionSet) : State κ :=
  { s with
    datums := s.datums.map fun d x =>
      if source = .datum d then { x with outgoing := f x.outgoing } else x
    closures := s.closures.map fun c x =>
      { x with
        outgoing := if source = .closure c then f x.outgoing else x.outgoing
        incoming := if target = .closure c then f x.incoming else x.incoming } }

/-- The set of a datum is changed if the datum is the source. -/
theorem getElem?_datums_atEnds (source target : NodeId) (f : SubscriptionSet → SubscriptionSet)
    (d : DatumId) : (s.atEnds source target f).datums[d]? = (s.datums[d]?).map fun x =>
      if source = .datum d then { x with outgoing := f x.outgoing } else x := by
  simp [atEnds]

/-- The sets of a closure are changed if the closure is at an end. -/
theorem getElem?_closures_atEnds (source target : NodeId) (f : SubscriptionSet → SubscriptionSet)
    (c : ClosureId) : (s.atEnds source target f).closures[c]? = (s.closures[c]?).map fun x =>
      { x with
        outgoing := if source = .closure c then f x.outgoing else x.outgoing
        incoming := if target = .closure c then f x.incoming else x.incoming } := by
  simp [atEnds]

/-- An entry that is changed by its key alone. -/
theorem getElem?_modify_eq_map {α β : Type} [Ord α] [DecidableEq α] [Std.TransOrd α]
    [Std.LawfulEqOrd α] (m : Std.ExtTreeMap α β) (a b : α) (f : β → β) :
    (m.modify a f)[b]? = (m[b]?).map fun x => if a = b then f x else x := by
  rw [Std.ExtTreeMap.getElem?_modify]
  by_cases h : a = b
  · subst h
    simp
  · simp [h]

/-- The state with the sets at the two ends of a subscription changed one after the other. -/
def changeEnds (source target : NodeId) (f : SubscriptionSet → SubscriptionSet) : State κ :=
  let s := match source with
    | .datum d => s.updateDatum d fun x => { x with outgoing := f x.outgoing }
    | .closure c => s.updateClosure c fun x => { x with outgoing := f x.outgoing }
  match target with
  | .datum _ => s
  | .closure c => s.updateClosure c fun x => { x with incoming := f x.incoming }

/-- The sets at two ends are changed at once. -/
theorem changeEnds_eq (source target : NodeId) (f : SubscriptionSet → SubscriptionSet) :
    s.changeEnds source target f = s.atEnds source target f := by
  cases source <;> cases target <;>
    simp only [changeEnds, updateClosure_eq, updateDatum_eq] <;>
    refine ext_tables rfl rfl (fun d => ?_) (fun c => ?_) rfl rfl rfl rfl <;>
    simp only [getElem?_modify_eq_map, getElem?_datums_atEnds, getElem?_closures_atEnds,
      NodeId.datum.injEq, NodeId.closure.injEq, reduceCtorEq, if_false, Option.map_id_fun', id_eq,
      Option.map_map, Function.comp_def]
  all_goals
    refine congrArg (Option.map · _) (funext fun x => ?_)
    split_ifs <;> rfl

/-- A subscription is linked by adding it at its ends. -/
theorem linkEdge_eq (id : SubscriptionId) (source target : NodeId) :
    s.linkEdge id source target = s.atEnds source target (·.insert id) :=
  s.changeEnds_eq source target (·.insert id)

/-- A subscription is unlinked by erasing it at its ends. -/
theorem unlinkEdge_eq (id : SubscriptionId) (source target : NodeId) :
    s.unlinkEdge id source target = s.atEnds source target (·.erase id) :=
  s.changeEnds_eq source target (·.erase id)

end State

end ReactiveKernel
