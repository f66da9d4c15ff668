import Std.Data.ExtTreeSet

/-!
# Identities

Datums and closures share one range of raw numbers: a datum's is even and a closure's is odd.
Each identity is held by its place in its own sequence, so a raw number of the wrong parity
cannot be stored. Subscriptions and their functions are counted separately.
-/

namespace ReactiveKernel

/-- Identity of a datum. -/
structure DatumId where
  /-- Place in the sequence of datums. -/
  index : Nat
  deriving DecidableEq, Inhabited

/-- Identity of a closure. -/
structure ClosureId where
  /-- Place in the sequence of closures. -/
  index : Nat
  deriving DecidableEq, Inhabited

/-- Identity of a subscription. -/
structure SubscriptionId where
  /-- Place in the sequence of subscriptions. -/
  raw : Nat
  deriving DecidableEq, Inhabited

/-- Identity of the function that a subscription calls. -/
structure FunctionId where
  /-- Place in the sequence of functions. -/
  raw : Nat
  deriving DecidableEq, Inhabited

/-- Identity of a node that can be subscribed to. -/
inductive NodeId where
  | datum (id : DatumId)
  | closure (id : ClosureId)
  deriving DecidableEq, Inhabited

/-- The two families of nodes. -/
inductive NodeFamily where
  | datum
  | closure
  deriving DecidableEq

/-- Name of a family in messages and in data. -/
def NodeFamily.name : NodeFamily → String
  | .datum => "datum"
  | .closure => "closure"

namespace DatumId

/-- The raw number of a datum, always even. -/
def raw (id : DatumId) : Nat := 2 * id.index

/-- The datum with some raw number, if it is even. -/
def ofRaw? (raw : Nat) : Option DatumId := if raw % 2 = 0 then some ⟨raw / 2⟩ else none

/-- Name of a datum in messages. -/
def display (id : DatumId) : String := s!"datum#{id.raw}"

/-- A datum is determined by its number. -/
theorem raw_injective {a b : DatumId} (h : a.raw = b.raw) : a = b := by
  cases a; cases b; simp only [raw] at h; congr 1; omega

/-- The number of a datum is read back as that datum. -/
theorem ofRaw?_raw (id : DatumId) : ofRaw? id.raw = some id := by
  simp [ofRaw?, raw]

end DatumId

namespace ClosureId

/-- The raw number of a closure, always odd. -/
def raw (id : ClosureId) : Nat := 2 * id.index + 1

/-- The closure with some raw number, if it is odd. -/
def ofRaw? (raw : Nat) : Option ClosureId := if raw % 2 = 1 then some ⟨raw / 2⟩ else none

/-- Name of a closure in messages. -/
def display (id : ClosureId) : String := s!"closure#{id.raw}"

/-- A closure is determined by its number. -/
theorem raw_injective {a b : ClosureId} (h : a.raw = b.raw) : a = b := by
  cases a; cases b; simp only [raw] at h; congr 1; omega

/-- The number of a closure is read back as that closure. -/
theorem ofRaw?_raw (id : ClosureId) : ofRaw? id.raw = some id := by
  have half : (2 * id.index + 1) / 2 = id.index := by omega
  simp [ofRaw?, raw, half]

end ClosureId

/-- Name of a subscription in messages. -/
def SubscriptionId.display (id : SubscriptionId) : String := s!"sub#{id.raw}"

/-- Name of a function in messages. -/
def FunctionId.display (id : FunctionId) : String := s!"fn#{id.raw}"

namespace NodeId

/-- The raw number of a node. -/
def raw : NodeId → Nat
  | .datum id => id.raw
  | .closure id => id.raw

/-- The node with some raw number; its parity says which family it belongs to. -/
def ofRaw (raw : Nat) : NodeId :=
  if raw % 2 = 0 then .datum ⟨raw / 2⟩ else .closure ⟨raw / 2⟩

/-- The datum, if the node is one. -/
def asDatum : NodeId → Option DatumId
  | .datum id => some id
  | .closure _ => none

/-- The closure, if the node is one. -/
def asClosure : NodeId → Option ClosureId
  | .closure id => some id
  | .datum _ => none

/-- Name of a node in messages. -/
def display : NodeId → String
  | .datum id => id.display
  | .closure id => id.display

/-- The number of a node is read back as that node. -/
theorem ofRaw_raw (node : NodeId) : ofRaw node.raw = node := by
  cases node with
  | datum id => simp [raw, ofRaw, DatumId.raw]
  | closure id =>
    have h : (2 * id.index + 1) / 2 = id.index := by omega
    simp [raw, ofRaw, ClosureId.raw, h]

/-- Every number is that of the node read from it. -/
theorem raw_ofRaw (n : Nat) : (ofRaw n).raw = n := by
  unfold ofRaw
  split <;> simp only [raw, DatumId.raw, ClosureId.raw] <;> omega

/-- All datums come before all closures; within a family the raw number decides. -/
def precedes : NodeId → NodeId → Bool
  | .datum a, .datum b => a.raw ≤ b.raw
  | .datum _, .closure _ => true
  | .closure _, .datum _ => false
  | .closure a, .closure b => a.raw ≤ b.raw

end NodeId

/-- Datums are ordered by their raw numbers. -/
instance : Ord DatumId := ⟨fun a b => compare a.index b.index⟩

instance : Std.TransOrd DatumId := inferInstanceAs (Std.TransCmp (compareOn DatumId.index))

instance : Std.LawfulEqOrd DatumId where
  eq_of_compare {a b} h := by
    cases a; cases b
    exact congrArg DatumId.mk (Std.LawfulEqOrd.eq_of_compare h)

/-- Closures are ordered by their raw numbers. -/
instance : Ord ClosureId := ⟨fun a b => compare a.index b.index⟩

instance : Std.TransOrd ClosureId := inferInstanceAs (Std.TransCmp (compareOn ClosureId.index))

instance : Std.LawfulEqOrd ClosureId where
  eq_of_compare {a b} h := by
    cases a; cases b
    exact congrArg ClosureId.mk (Std.LawfulEqOrd.eq_of_compare h)

/-- Subscriptions are ordered by their raw numbers. -/
instance : Ord SubscriptionId := ⟨fun a b => compare a.raw b.raw⟩

instance : Std.TransOrd SubscriptionId :=
  inferInstanceAs (Std.TransCmp (compareOn SubscriptionId.raw))

instance : Std.LawfulEqOrd SubscriptionId where
  eq_of_compare {a b} h := by
    cases a; cases b
    exact congrArg SubscriptionId.mk (Std.LawfulEqOrd.eq_of_compare h)

/-- Functions are ordered by their raw numbers. -/
instance : Ord FunctionId := ⟨fun a b => compare a.raw b.raw⟩

instance : Std.TransOrd FunctionId := inferInstanceAs (Std.TransCmp (compareOn FunctionId.raw))

instance : Std.LawfulEqOrd FunctionId where
  eq_of_compare {a b} h := by
    cases a; cases b
    exact congrArg FunctionId.mk (Std.LawfulEqOrd.eq_of_compare h)

/-- The set of subscriptions at one end of a node. -/
abbrev SubscriptionSet := Std.ExtTreeSet SubscriptionId

/-- The next place in every sequence of identities. An identity is never given out twice. -/
structure Counters where
  /-- Datums created so far. -/
  datums : Nat := 0
  /-- Closures created so far. -/
  closures : Nat := 0
  /-- Subscriptions created so far. -/
  subscriptions : Nat := 0
  /-- Functions created so far. -/
  functions : Nat := 0
  deriving DecidableEq

end ReactiveKernel
