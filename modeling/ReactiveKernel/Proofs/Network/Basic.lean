import Mathlib.Data.List.Chain
import ReactiveKernel.Proofs.Network.Write

/-!
# Networks of derived fields

A derivation computes one field of its target from fields of its source, and a subscription whose
callback does this keeps it up to date. In a network every subscription is of this kind and no two
of them write the same field. If there is a longest chain of derivations that feed one another, then
the derived fields are determined by the others.
-/

namespace ReactiveKernel

variable {κ : Type}

namespace Selector

/-- The fields that are selected by name. -/
def names : Selector → List String
  | .key name => [name]
  | .oneOf names => names.toList
  | _ => []

/-- A selector that selects fields by name. -/
def IsNamed : Selector → Prop
  | .key _ | .oneOf _ => True
  | _ => False

variable {selector : Selector} {name : String}

/-- A change of a field is matched exactly if the field is selected. -/
theorem IsNamed.accepts_field (named : selector.IsNamed) :
    selector.accepts (.field name) = true ↔ name ∈ selector.names := by
  cases selector with
  | key own => simp [accepts, Change.fieldName, names]
  | oneOf own => simp [accepts, Change.fieldName, names]
  | _ => cases named

/-- A carried change is not matched. -/
theorem IsNamed.not_carried (named : selector.IsNamed) : selector.accepts .carried ≠ true := by
  cases selector with
  | key own => simp [accepts, Change.fieldName]
  | oneOf own => simp [accepts, Change.fieldName]
  | _ => cases named

end Selector

/-- What is read in each field of each node. -/
abbrev Valuation := NodeId → String → Value

namespace State

variable {s t : State κ} {n : NodeId} {name : String}

/-- What is read in a state; what cannot be read counts as null. -/
def valuation (s : State κ) : Valuation := fun n name => (s.get n name).toOption.getD .null

/-- The fields of a node can be read. -/
def Readable (s : State κ) (n : NodeId) : Prop := ∃ fields, s.fieldsOf n = .ok fields

/-- A field that reads as before has the same value. -/
theorem valuation_congr (h : t.get n name = s.get n name) :
    t.valuation n name = s.valuation n name := by
  simp only [valuation, h]

/-- The value of a field that can be read is what is read. -/
theorem valuation_of_ok {v : Value} (h : s.get n name = .ok v) : s.valuation n name = v := by
  simp [valuation, h, Except.toOption]

/-- A field of a readable node reads as its value. -/
theorem Readable.get (h : s.Readable n) (name : String) :
    s.get n name = .ok (s.valuation n name) := by
  obtain ⟨fields, holds⟩ := h
  have read : s.get n name = .ok ((fields[name]?).getD .null) := by
    simp [State.get, field?, holds, bind, Except.bind, pure, Except.pure]
  rw [valuation_of_ok read, read]

/-- A node is readable if a field of it can be read. -/
theorem readable_of_ok {v : Value} (h : s.get n name = .ok v) : s.Readable n := by
  obtain ⟨o, ho, _⟩ := Kernel.bind_eq_ok.mp h
  obtain ⟨fields, holds, _⟩ := Kernel.bind_eq_ok.mp ho
  exact ⟨fields, holds⟩

end State

/-- How a field of a target is computed from fields of a source. -/
structure Derivation where
  /-- Where the inputs are read. -/
  source : NodeId
  /-- Which fields are the inputs. -/
  selector : Selector
  /-- Where the result is written. -/
  target : NodeId
  /-- The field that is written. -/
  field : String
  /-- The result for given inputs. -/
  compute : List Value → Value

namespace Derivation

variable {d : Derivation} {A B : Valuation}

/-- A field is an input. -/
def Reads (d : Derivation) (n : NodeId) (name : String) : Prop :=
  n = d.source ∧ name ∈ d.selector.names

/-- A field is the result. -/
def Writes (d : Derivation) (n : NodeId) (name : String) : Prop := n = d.target ∧ name = d.field

/-- The result of one derivation is an input of another one. -/
def Feeds (d d' : Derivation) : Prop := d'.Reads d.target d.field

/-- What is computed from what is read. -/
def value (d : Derivation) (A : Valuation) : Value :=
  d.compute (d.selector.names.map (A d.source))

/-- The field of the target is what is computed from the inputs. -/
def Solves (d : Derivation) (A : Valuation) : Prop := A d.target d.field = d.value A

/-- The field of the target can be read, and it is what is computed from the inputs. -/
def Satisfied (d : Derivation) (s : State κ) : Prop :=
  s.get d.target d.field = .ok (d.value s.valuation)

/-- Read the inputs and write the result. -/
def program (d : Derivation) : Program κ (Except Fault Unit) :=
  .inspect fun s =>
    match d.selector.names.mapM (s.get d.source) with
    | .error fault => .pure (.error fault)
    | .ok inputs => .command (.set d.target d.field (d.compute inputs)) fun reply =>
      .pure (reply.map fun _ => ())

/-- What is computed depends on the inputs only. -/
theorem value_congr (same : ∀ n name, d.Reads n name → A n name = B n name) :
    d.value A = d.value B := by
  have inputs : d.selector.names.map (A d.source) = d.selector.names.map (B d.source) :=
    List.map_congr_left fun name selected => same d.source name ⟨rfl, selected⟩
  simp only [value, inputs]

/-- A derivation that is satisfied in a state is solved there. -/
theorem Satisfied.solves {s : State κ} (h : d.Satisfied s) : d.Solves s.valuation :=
  State.valuation_of_ok h

end Derivation

/-- What host code does when a subscription is notified is to follow a derivation. -/
def Host.Performs (h : Host κ) (code : κ) (id : SubscriptionId) (d : Derivation) : Prop :=
  ∀ generation order call k,
    (h.behave code (.notified ⟨id, d.source, d.target, generation⟩)).exec order call k =
      d.program.exec order call k

/-- Every registered subscription follows a derivation on plain values, and no two of them write the
same field. -/
structure Network (h : Host κ) (rule : SubscriptionId → Derivation) (s : State κ) : Prop where
  /-- A subscription leads from the source to the target. -/
  edge : ∀ id e, s.edges.subscriptions[id]? = some e → e.source = (rule id).source ∧
    e.target = (rule id).target ∧ e.selector = (rule id).selector
  /-- The inputs are selected by name. -/
  named : ∀ id ∈ s.edges.subscriptions, (rule id).selector.IsNamed
  /-- The callback follows the derivation. -/
  callback : ∀ id e code, s.edges.callback? id = some (e, code) → h.Performs code id (rule id)
  /-- The source is a record or a closure. -/
  source : ∀ id ∈ s.edges.subscriptions, s.Readable (rule id).source
  /-- The target is a record or a closure. -/
  target : ∀ id ∈ s.edges.subscriptions, s.Readable (rule id).target
  /-- No two subscriptions write the same field. -/
  single : ∀ i ∈ s.edges.subscriptions, ∀ j ∈ s.edges.subscriptions,
    (rule i).Writes (rule j).target (rule j).field → i = j
  /-- The result for plain inputs is plain. -/
  closed : ∀ id ∈ s.edges.subscriptions, ∀ inputs, (∀ v ∈ inputs, v.IsPlain) →
    ((rule id).compute inputs).IsPlain
  /-- The inputs are plain. -/
  plain : ∀ id ∈ s.edges.subscriptions, ∀ n name, (rule id).Reads n name →
    (s.valuation n name).IsPlain

/-- A field that some registered subscription writes. -/
def Derived (rule : SubscriptionId → Derivation) (t : EdgeTable κ) (n : NodeId) (name : String) :
    Prop :=
  ∃ id ∈ t.subscriptions, (rule id).Writes n name

/-- No chain of registered subscriptions that feed one another is longer than this. -/
def Bounded (rule : SubscriptionId → Derivation) (t : EdgeTable κ) (longest : Nat) : Prop :=
  ∀ chain : List SubscriptionId, (∀ id ∈ chain, id ∈ t.subscriptions) →
    chain.IsChain (fun i j => (rule i).Feeds (rule j)) → chain.length ≤ longest

/-- A registered subscription is at the end of a chain of this length. -/
inductive Deep (rule : SubscriptionId → Derivation) (t : EdgeTable κ) : Nat → SubscriptionId → Prop
  /-- A chain of one. -/
  | first {id : SubscriptionId} (live : id ∈ t.subscriptions) : Deep rule t 1 id
  /-- One more. -/
  | next {depth : Nat} {i j : SubscriptionId} (deep : Deep rule t depth i)
    (feeds : (rule i).Feeds (rule j)) (live : j ∈ t.subscriptions) : Deep rule t (depth + 1) j

variable {rule : SubscriptionId → Derivation} {t : EdgeTable κ} {longest depth : Nat}
  {id : SubscriptionId}

/-- What is at the end of a chain is registered. -/
theorem Deep.live (h : Deep rule t depth id) : id ∈ t.subscriptions := by
  cases h with
  | first live => exact live
  | next deep feeds live => exact live

/-- The chain. -/
theorem Deep.chain (h : Deep rule t depth id) : ∃ before : List SubscriptionId,
    (∀ i ∈ before ++ [id], i ∈ t.subscriptions) ∧
      (before ++ [id]).IsChain (fun i j => (rule i).Feeds (rule j)) ∧
      (before ++ [id]).length = depth := by
  induction h with
  | first live => exact ⟨[], by simpa using live, List.isChain_singleton _, rfl⟩
  | @next depth i j deep feeds live ih =>
    obtain ⟨before, members, chain, length⟩ := ih
    refine ⟨before ++ [i], ?_, ?_, ?_⟩
    · intro x hx
      rcases List.mem_append.mp hx with old | new
      · exact members x old
      · rw [List.mem_singleton.mp new]
        exact live
    · refine List.isChain_append.mpr ⟨chain, List.isChain_singleton j, ?_⟩
      intro x hx y hy
      have last : i = x := by simpa using hx
      have head : j = y := by simpa using hy
      exact last ▸ head ▸ feeds
    · rw [List.length_append, length]
      rfl

/-- No chain is longer than the bound. -/
theorem Bounded.depth_le (bounded : Bounded rule t longest) (deep : Deep rule t depth id) :
    depth ≤ longest := by
  obtain ⟨before, members, chain, length⟩ := deep.chain
  rw [← length]
  exact bounded _ members chain

/-- No derivation reads its own result. -/
theorem Bounded.irrefl (bounded : Bounded rule t longest) (live : id ∈ t.subscriptions) :
    ¬ (rule id).Feeds (rule id) := by
  intro feeds
  have members : ∀ i ∈ List.replicate (longest + 1) id, i ∈ t.subscriptions := by
    intro i hi
    rw [List.eq_of_mem_replicate hi]
    exact live
  have length := bounded _ members (List.isChain_replicate_of_rel _ feeds)
  rw [List.length_replicate] at length
  omega

/-- Two solutions are the same if they agree on what is not derived: what is derived at some depth
has its inputs from smaller depths. -/
theorem Bounded.unique (bounded : Bounded rule t longest) {A B : Valuation}
    (hA : ∀ id ∈ t.subscriptions, (rule id).Solves A)
    (hB : ∀ id ∈ t.subscriptions, (rule id).Solves B)
    (same : ∀ n name, ¬ Derived rule t n name → A n name = B n name) : A = B := by
  have agree (depth : Nat) : ∀ i ∈ t.subscriptions, ¬ Deep rule t (depth + 1) i →
      A (rule i).target (rule i).field = B (rule i).target (rule i).field := by
    induction depth with
    | zero =>
      intro i live shallow
      exact absurd (.first live) shallow
    | succ depth ih =>
      intro i live shallow
      rw [hA i live, hB i live]
      refine Derivation.value_congr fun n name reads => ?_
      by_cases derived : Derived rule t n name
      · obtain ⟨j, other, rfl, rfl⟩ := derived
        exact ih j other fun deep => shallow (deep.next reads live)
      · exact same n name derived
  funext n name
  by_cases derived : Derived rule t n name
  · obtain ⟨i, live, rfl, rfl⟩ := derived
    refine agree longest i live fun deep => ?_
    exact absurd (bounded.depth_le deep) (Nat.not_succ_le_self longest)
  · exact same n name derived

end ReactiveKernel
