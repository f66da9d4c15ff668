import ReactiveKernel.Proofs.Effect.History
import ReactiveKernel.Proofs.State.Tables

/-!
# What a removal announces

A removal announces the subscriptions, datums and closures that it removes and nothing else, and
a subscription is announced exactly if it was registered before and is not afterwards. This holds
of every step of a removal, and adds up along the recursion without any invariant.
-/

namespace ReactiveKernel

variable {κ : Type}

/-- Whether an event announces that something is gone. -/
def TraceEvent.isRemoval : TraceEvent → Bool
  | .unsubscribed _ | .datumDestroyed _ | .closureDestroyed _ => true
  | _ => false

namespace Kernel

/-- A list of removals was announced, and the subscriptions among them are those that are not
registered any more. -/
structure Cuts (k : Kernel κ) (cuts : List TraceEvent) (k' : Kernel κ) : Prop where
  /-- The removals are what the history gained. -/
  history : k'.history = k.history ++ cuts.map .announced
  /-- Nothing else is announced. -/
  removals : ∀ e ∈ cuts, e.isRemoval = true
  /-- The subscriptions that are gone. -/
  unsubscribed : ∀ id : SubscriptionId, .unsubscribed id ∈ cuts ↔
    id ∈ k.edges.subscriptions ∧ id ∉ k'.edges.subscriptions
  /-- No subscription was added or changed. -/
  kept : ∀ (id : SubscriptionId) (e : Subscription), k'.edges.subscriptions[id]? = some e →
    k.edges.subscriptions[id]? = some e

/-- Some removals were announced. -/
def Removes (k k' : Kernel κ) : Prop := ∃ cuts, k.Cuts cuts k'

variable {k k' k'' : Kernel κ}

theorem Cuts.trans {cuts cuts' : List TraceEvent} (h : k.Cuts cuts k') (h' : k'.Cuts cuts' k'') :
    k.Cuts (cuts ++ cuts') k'' := by
  have kept {a b : Kernel κ} {l : List TraceEvent} (h : a.Cuts l b) (id : SubscriptionId)
      (hid : id ∈ b.edges.subscriptions) : id ∈ a.edges.subscriptions := by
    obtain ⟨e, he⟩ := mem_subscriptions.mp hid
    exact mem_subscriptions.mpr ⟨e, h.kept id e he⟩
  refine ⟨?_, ?_, ?_, fun id e he => h.kept id e (h'.kept id e he)⟩
  · rw [h'.history, h.history, List.map_append, List.append_assoc]
  · intro e he
    rcases List.mem_append.mp he with he | he
    · exact h.removals e he
    · exact h'.removals e he
  · intro id
    rw [List.mem_append, h.unsubscribed, h'.unsubscribed]
    constructor
    · rintro (⟨before, after⟩ | ⟨before, after⟩)
      · exact ⟨before, fun hid => after (kept h' id hid)⟩
      · exact ⟨kept h id before, after⟩
    · rintro ⟨before, after⟩
      by_cases middle : id ∈ k'.edges.subscriptions
      · exact .inr ⟨middle, after⟩
      · exact .inl ⟨before, middle⟩

theorem Removes.trans (h : k.Removes k') (h' : k'.Removes k'') : k.Removes k'' := by
  obtain ⟨cuts, h⟩ := h
  obtain ⟨cuts', h'⟩ := h'
  exact ⟨cuts ++ cuts', h.trans h'⟩

/-- A change of the state that leaves the subscriptions alone. -/
theorem Removes.mapState (k : Kernel κ) {f : State κ → State κ}
    (same : (f k.toState).edges.subscriptions = k.edges.subscriptions) :
    k.Removes (k.mapState f) := by
  refine ⟨[], by simp, by simp, ?_, ?_⟩
  · intro id
    simp [same]
  · intro id e he
    rw [toState_mapState, same] at he
    exact he

theorem Removes.refl (k : Kernel κ) : k.Removes k := .mapState k (f := id) rfl

/-- Announcing that a node is gone. -/
theorem Removes.emit (k : Kernel κ) {e : TraceEvent} (removal : e.isRemoval = true)
    (node : ∀ id, e ≠ .unsubscribed id) : k.Removes (k.emit e) := by
  refine ⟨[e], by simp, by simpa using removal, ?_, fun _ _ h => h⟩
  intro id
  have other : ¬ .unsubscribed id = e := fun eq => node id eq.symm
  simp [other]

/-- Entries that drains do not write announce no removal. -/
theorem Removes.log (k : Kernel κ) {e : LogEvent} (h : e.isOfDrain = false) :
    k.Removes (k.log e) := by
  refine ⟨[], ?_, by simp, by simp, fun _ _ h => h⟩
  simp [history_log, h]

/-- Steps that announce removals add up over a list. -/
theorem Removes.foldl {α : Type} {f : Kernel κ → α → Kernel κ}
    (step : ∀ (k : Kernel κ) (a : α), k.Removes (f k a)) (k : Kernel κ) (l : List α) :
    k.Removes (l.foldl f k) := by
  induction l generalizing k with
  | nil => exact .refl k
  | cons a l ih => exact (step k a).trans (ih (f k a))

/-- The removal of a subscription is announced. -/
theorem removes_removeEdge (k : Kernel κ) (id : SubscriptionId) :
    k.Removes (k.removeEdge id) := by
  unfold removeEdge
  cases he : k.edges.subscriptions[id]? with
  | none => exact .refl k
  | some e =>
    let k₁ := k.mapState fun t =>
      State.unlinkEdge { t with edges := t.edges.erase id e } id e.source e.target
    have table : k₁.edges.subscriptions = k.edges.subscriptions.erase id := by
      simp only [k₁, toState_mapState, State.unlinkEdge_eq]
      rfl
    refine ⟨[.unsubscribed id], by simp, by simp [TraceEvent.isRemoval], ?_, ?_⟩
    · intro a
      have registered : id ∈ k.edges.subscriptions := mem_subscriptions.mpr ⟨e, he⟩
      simp only [toState_emit]
      rw [table, Std.ExtTreeMap.mem_erase]
      simp only [List.mem_singleton, TraceEvent.unsubscribed.injEq, ne_eq,
        Std.LawfulEqCmp.compare_eq_iff_eq, not_and]
      constructor
      · rintro rfl
        exact ⟨registered, fun h => absurd rfl h⟩
      · rintro ⟨here, gone⟩
        by_contra other
        exact gone (fun eq => other eq.symm) here
    · intro a e' he'
      simp only [toState_emit] at he'
      rw [table, Std.ExtTreeMap.getElem?_erase] at he'
      split at he'
      · cases he'
      · exact he'

/-- The removals of subscriptions are announced. -/
theorem removes_removeEdges (k : Kernel κ) (ids : List SubscriptionId) :
    k.Removes (k.removeEdges ids) :=
  .foldl removes_removeEdge k ids

/-- The destruction of a datum is announced with what it removes. -/
theorem removes_razeDatum (k : Kernel κ) (order : EdgeOrder κ) (d : DatumId) :
    k.Removes (k.razeDatum order d) := by
  unfold razeDatum
  cases hd : k.datums[d]? with
  | none => exact .refl k
  | some x =>
    refine (removes_removeEdges k _).trans (.trans (.mapState _ ?_) (.trans (.emit _ rfl ?_)
      (.log _ rfl)))
    · cases x.owner with
      | none => rfl
      | some o => simp only [State.updateClosure_eq]
    · simp

/-- The loss of one closure is announced. -/
theorem removes_dropClosure (k : Kernel κ) (c : ClosureId) (parent : Option ClosureId) :
    k.Removes (k.dropClosure c parent) := by
  unfold dropClosure
  refine .trans (.mapState _ ?_) (.trans (.emit _ rfl ?_) (.log _ rfl))
  · cases parent with
    | none => rfl
    | some p => simp only [State.updateClosure_eq]
  · simp

/-- The walk down from a closure announces what it removes. By induction on the fuel. -/
theorem removes_razeClosure (order : EdgeOrder κ) (fuel : Nat) (k : Kernel κ) (c : ClosureId) :
    k.Removes (razeClosure order fuel k c) := by
  induction fuel generalizing k c with
  | zero => exact .refl k
  | succ fuel ih =>
    unfold razeClosure
    cases hc : k.closures[c]? with
    | none => exact .refl k
    | some x =>
      refine .trans (.mapState k ?_) (.trans (removes_removeEdges _ _) (.trans
        (removes_removeEdges _ _) (.trans (.foldl (fun k d => removes_razeDatum k order d) _ _)
          (.trans (.foldl ih _ _) (removes_dropClosure _ c x.parent)))))
      rfl

/-- The destruction of a closure is announced with what it removes. -/
theorem removes_raze (k : Kernel κ) (order : EdgeOrder κ) (c : ClosureId) :
    k.Removes (k.raze order c) :=
  removes_razeClosure order _ k c

end Kernel

end ReactiveKernel
