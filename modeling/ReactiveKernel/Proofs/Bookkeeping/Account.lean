import ReactiveKernel.Proofs.Effect.Issuance
import ReactiveKernel.Proofs.Mutation

/-!
# Accounts of nodes

The account of a live node is what changes of it are about: what is written there, how often and
when it has changed, and who counts its changes as well. Links are no part of it. So a new
subscription leaves all accounts alone, a removal only closes some, a new node opens one, and a
mutation touches that of its node and that of the owner.
-/

namespace ReactiveKernel

variable {κ : Type}

namespace Slot

/-- The shape of a datum. -/
def shape? : Slot → Option Shape
  | .datum content _ => some content.shape
  | .closure _ => none

/-- The value of a field, if there are fields; an absent one is null. -/
def read? : Slot → String → Option Value
  | .datum (.record fields) _, name | .closure fields, name => some ((fields[name]?).getD .null)
  | .datum (.collection _) _, _ => none

/-- Only the shape decides whether there are fields. -/
theorem isSome_read {u v : Slot} (shape : u.shape? = v.shape?) (name : String) :
    (u.read? name).isSome = (v.read? name).isSome := by
  have readable (w : Slot) : (w.read? name).isSome = (w.shape? != some .collection) := by
    rcases w with ⟨_ | _, _⟩ | _ <;> rfl
  rw [readable, readable, shape]

end Slot

/-- What changes of a live node are about. -/
structure Account where
  /-- What is written there. -/
  slot : Slot
  /-- How often it has changed. -/
  revisions : Revisions
  /-- When it changed last; creation counts as a change. -/
  setGeneration : Nat
  /-- The closure that counts its changes as well. -/
  owner : Option ClosureId

namespace Account

/-- The account of a node that is made with something written there. -/
def opened (slot : Slot) (generation : Nat) (owner : Option ClosureId) : Account :=
  ⟨slot, .initial, generation, owner⟩

/-- The account after a change of the node. -/
def touch (a : Account) (slot : Slot) (generation : Nat) : Account :=
  { a with slot, revisions := a.revisions.bumpStructural, setGeneration := generation }

/-- The account after a change of a datum that the node owns. -/
def carry (a : Account) : Account := { a with revisions := a.revisions.bumpCarried }

end Account

/-- The account of a datum. -/
def Datum.account (x : Datum) : Account :=
  ⟨.datum x.content x.status, x.revisions, x.setGeneration, x.owner⟩

/-- The account of a closure. Nobody counts its changes as well. -/
def Closure.account (x : Closure) : Account :=
  ⟨.closure x.fields, x.revisions, x.setGeneration, none⟩

namespace State

/-- The account of a node, if it is live. -/
def account? (s : State κ) : NodeId → Option Account
  | .datum d => (s.datums[d]?).map Datum.account
  | .closure c => (s.closures[c]?).map Closure.account

variable {s t : State κ} {n : NodeId} {a : Account}

/-- The account of a live datum is kept in its record. -/
theorem account_datum {d : DatumId} {x : Datum} (hd : s.datums[d]? = some x) :
    s.account? (.datum d) = some x.account := by
  rw [account?, hd]
  rfl

/-- The account of a live closure is kept in its record. -/
theorem account_closure {c : ClosureId} {x : Closure} (hc : s.closures[c]? = some x) :
    s.account? (.closure c) = some x.account := by
  rw [account?, hc]
  rfl

/-- A datum has an account exactly if it is live, and then it is that of its record. -/
theorem account_datum_iff {d : DatumId} :
    s.account? (.datum d) = some a ↔ ∃ x, s.datums[d]? = some x ∧ x.account = a :=
  Option.map_eq_some_iff

/-- A closure has an account exactly if it is live, and then it is that of its record. -/
theorem account_closure_iff {c : ClosureId} :
    s.account? (.closure c) = some a ↔ ∃ x, s.closures[c]? = some x ∧ x.account = a :=
  Option.map_eq_some_iff

/-- Accounts depend on the accounts in the tables alone. -/
theorem account_congr (datums : ∀ d : DatumId,
      (t.datums[d]?).map Datum.account = (s.datums[d]?).map Datum.account)
    (closures : ∀ c : ClosureId,
      (t.closures[c]?).map Closure.account = (s.closures[c]?).map Closure.account) (n : NodeId) :
    t.account? n = s.account? n := by
  cases n with
  | datum d => exact datums d
  | closure c => exact closures c

/-- Exactly the live nodes have accounts. -/
theorem contains_iff_account : s.contains n = true ↔ ∃ a, s.account? n = some a := by
  cases n with
  | datum d =>
    rw [contains_datum]
    constructor
    · rintro ⟨x, hx⟩
      exact ⟨_, account_datum hx⟩
    · rintro ⟨a, ha⟩
      obtain ⟨x, hx, _⟩ := account_datum_iff.mp ha
      exact ⟨x, hx⟩
  | closure c =>
    rw [contains_closure]
    constructor
    · rintro ⟨x, hx⟩
      exact ⟨_, account_closure hx⟩
    · rintro ⟨a, ha⟩
      obtain ⟨x, hx, _⟩ := account_closure_iff.mp ha
      exact ⟨x, hx⟩

/-- Whoever has an account has an identity that was given out. -/
theorem Issued.given_of_account (issued : s.Issued) (h : s.account? n = some a) :
    s.Given n.identity := by
  cases n with
  | datum d =>
    obtain ⟨x, hx, _⟩ := account_datum_iff.mp h
    exact issued.datums d x hx
  | closure c =>
    obtain ⟨x, hx, _⟩ := account_closure_iff.mp h
    exact issued.closures c x hx

/-! What can be asked of a node is in its account. -/

/-- The revisions that are asked for at a live node are those in its account. -/
theorem revisionsOf_account (h : s.account? n = some a) : s.revisionsOf n = .ok a.revisions := by
  cases n with
  | datum d =>
    obtain ⟨x, hx, rfl⟩ := account_datum_iff.mp h
    simp [revisionsOf, requireDatum, hx, bind, Except.bind, pure, Except.pure, Datum.account]
  | closure c =>
    obtain ⟨x, hx, rfl⟩ := account_closure_iff.mp h
    simp [revisionsOf, requireClosure, hx, bind, Except.bind, pure, Except.pure, Closure.account]

/-- The stamp of a live node is the one in its account. -/
theorem stamp_account (h : s.account? n = some a) : s.stamp? n = some a.setGeneration := by
  cases n with
  | datum d =>
    obtain ⟨x, hx, rfl⟩ := account_datum_iff.mp h
    simp [stamp?, hx, Datum.account]
  | closure c =>
    obtain ⟨x, hx, rfl⟩ := account_closure_iff.mp h
    simp [stamp?, hx, Closure.account]

/-- A field can be read if its node is live and has fields. -/
theorem get_ok {name : String} {v : Value} :
    s.get n name = .ok v ↔ ∃ a, s.account? n = some a ∧ a.slot.read? name = some v := by
  cases n with
  | datum d =>
    cases hd : s.datums[d]? with
    | none => simp [get, field?, fieldsOf, requireDatum, account?, hd, bind, Except.bind]
    | some x =>
      cases holds : x.content <;>
        simp [get, field?, fieldsOf, requireDatum, account?, hd, Datum.requireFields, Datum.account,
          holds, Slot.read?, bind, Except.bind, pure, Except.pure]
  | closure c =>
    cases hc : s.closures[c]? with
    | none => simp [get, field?, fieldsOf, requireClosure, account?, hc, bind, Except.bind]
    | some x =>
      simp [get, field?, fieldsOf, requireClosure, account?, hc, Closure.account, Slot.read?, bind,
        Except.bind, pure, Except.pure]

/-! New nodes open accounts. -/

/-- A new datum has a fresh account, and all other accounts stay as they are. -/
theorem account_addDatum (typeName : String) (content : Content) (owner : Option ClosureId)
    (n : NodeId) : (s.addDatum typeName content owner).account? n =
      if n = .datum s.nextDatum then some (.opened (.datum content .ready) s.generation owner)
      else s.account? n := by
  cases n with
  | datum d =>
    simp only [account?, getElem?_datums_addDatum, NodeId.datum.injEq, @eq_comm _ d]
    split <;> rfl
  | closure c =>
    simp only [account?, getElem?_closures_addDatum, Option.map_map, reduceCtorEq, if_false]
    refine congrArg (Option.map · _) (funext fun x => ?_)
    simp only [Function.comp]
    split <;> rfl

/-- A new closure has a fresh account that holds its parameters, and all others stay as they are. -/
theorem account_enroll (template : String) (parent : Option ClosureId)
    (params : List (String × Value)) (n : NodeId) : (s.enroll template parent params).account? n =
      if n = .closure s.nextClosure then
        some (.opened (.closure (.ofEntries params)) s.generation none)
      else s.account? n := by
  cases n with
  | datum d =>
    rw [enroll_eq]
    rfl
  | closure c =>
    simp only [account?, getElem?_closures_enroll, getElem?_closures_addClosure,
      NodeId.closure.injEq, @eq_comm _ c]
    split
    · rfl
    · rw [Option.map_map]
      refine congrArg (Option.map · _) (funext fun x => ?_)
      simp only [Function.comp]
      split <;> rfl

/-! Links are no part of an account. -/

/-- A new subscription changes no account. -/
theorem account_addEdge (source target : NodeId) (selector : Selector) (code : κ) (n : NodeId) :
    (s.addEdge source target selector code).account? n = s.account? n := by
  refine account_congr (fun d => ?_) (fun c => ?_) n
  · have entry := s.getElem?_datums_atEnds source target (·.insert s.nextSubscription) d
    rw [show (s.addEdge source target selector code).datums[d]? = _ from entry, Option.map_map]
    refine congrArg (Option.map · _) (funext fun x => ?_)
    simp only [Function.comp_apply]
    split <;> rfl
  · have entry := s.getElem?_closures_atEnds source target (·.insert s.nextSubscription) c
    rw [show (s.addEdge source target selector code).closures[c]? = _ from entry, Option.map_map]
    rfl

/-- The loss of subscriptions changes no account. -/
theorem account_dropEdges (lost : SubscriptionId → Prop) (n : NodeId) :
    (s.dropEdges lost).account? n = s.account? n := by
  refine account_congr (fun d => ?_) (fun c => ?_) n
  · rw [getElem?_datums_dropEdges, Option.map_map]
    rfl
  · rw [getElem?_closures_dropEdges, Option.map_map]
    rfl

/-- What is left when nodes are taken out was there before. -/
theorem account_of_dropNodes {gone : NodeId → Prop} (h : (s.dropNodes gone).account? n = some a) :
    s.account? n = some a := by
  cases n with
  | datum d =>
    simp only [account?, getElem?_datums_dropNodes] at h
    split at h
    · cases h
    · exact h
  | closure c =>
    simp only [account?, getElem?_closures_dropNodes] at h
    split at h
    · cases h
    · rw [Option.map_map] at h
      exact h

/-! Mutations. -/

/-- The owner of a node is the one in its account. -/
theorem owns_account (h : s.account? n = some a) (c : ClosureId) :
    s.Owns c n ↔ a.owner = some c := by
  cases n with
  | datum d =>
    obtain ⟨x, hx, rfl⟩ := account_datum_iff.mp h
    exact owns_datum hx
  | closure b =>
    obtain ⟨x, _, rfl⟩ := account_closure_iff.mp h
    exact ⟨fun owns => absurd owns not_owns_closure, nofun⟩

variable {node : NodeId} {change : Change} {slot : Slot}

/-- The account of the node that is changed. -/
theorem Mutates.account_here (h : s.Mutates node change slot t) (was : s.account? node = some a) :
    t.account? node = some (a.touch slot s.generation) := by
  cases node with
  | datum d =>
    obtain ⟨x, content, status, hx, rfl, after⟩ := h.datum d rfl
    cases (account_datum hx).symm.trans was
    exact account_datum after
  | closure c =>
    obtain ⟨x, fields, hx, rfl, after⟩ := h.closure c rfl
    cases (account_closure hx).symm.trans was
    exact account_closure after

/-- The owner counts the change as well. -/
theorem Mutates.account_owner (h : s.Mutates node change slot t) (was : s.account? node = some a)
    {c : ClosureId} (owner : a.owner = some c) :
    t.account? (.closure c) = (s.account? (.closure c)).map Account.carry := by
  obtain ⟨x, hx, after⟩ := h.owner c ((owns_account was c).mpr owner)
  rw [account_closure hx, account_closure after]
  rfl

/-- All other accounts are as they were. -/
theorem Mutates.account_other (h : s.Mutates node change slot t) (was : s.account? node = some a)
    (other : n ≠ node) (unowned : ∀ c, a.owner = some c → n ≠ .closure c) :
    t.account? n = s.account? n := by
  cases n with
  | datum d => rw [account?, account?, h.other_datums d (Ne.symm other)]
  | closure c =>
    rw [account?, account?, h.other_closures c (Ne.symm other) fun owns => ?_]
    exact unowned c ((owns_account was c).mp owns) rfl

end State

end ReactiveKernel
