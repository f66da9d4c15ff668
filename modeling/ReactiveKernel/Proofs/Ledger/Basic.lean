import Mathlib.Data.List.Basic
import Mathlib.Data.List.Induction
import Mathlib.Logic.Function.Basic
import ReactiveKernel.Proofs.Effect.History

/-!
# The ledger

The journal alone tells which subscriptions are registered, who owns which datum, and when each
node changed last. A ledger is what has been gathered from the entries so far. It says which entries
call for the notification of a subscription, and so which subscriptions are due.
-/

namespace ReactiveKernel

variable {κ : Type}

/-- What the journal says of a subscription. -/
structure Listing where
  /-- Where it starts. -/
  source : NodeId
  /-- Where it ends. -/
  target : NodeId
  /-- The changes that it matches. -/
  selector : Selector

/-- The ends and the selector of a subscription. -/
def Subscription.listing (e : Subscription) : Listing := ⟨e.source, e.target, e.selector⟩

/-- Whether an event can call for a notification. -/
def TraceEvent.mayCall : TraceEvent → Bool
  | .fieldSet .. | .itemsSet .. | .availabilitySet .. | .subscribed .. => true
  | _ => false

/-- What the entries of a journal say so far. -/
structure Ledger where
  /-- The registered subscriptions. -/
  registered : SubscriptionId → Option Listing
  /-- The owner that each datum was made with. -/
  owner : DatumId → Option ClosureId
  /-- The generation of the last change of each node; its creation counts as one. -/
  stamp : NodeId → Option Nat
  /-- The generation of the last wave. -/
  generation : Nat
  /-- Whether a drain is running. -/
  draining : Bool
  /-- The members of the current wave whose turn is still to come. -/
  rest : List SubscriptionId
  /-- The member of the current wave whose turn came last, if its callback was started. -/
  turn : Option SubscriptionId

namespace Ledger

/-- Nothing has happened. -/
def blank : Ledger :=
  { registered := fun _ => none
    owner := fun _ => none
    stamp := fun _ => none
    generation := 0
    draining := false
    rest := []
    turn := none }

/-- A node is stamped with the generation. -/
def touch (l : Ledger) (node : NodeId) : Ledger :=
  { l with stamp := Function.update l.stamp node (some l.generation) }

/-- The ledger with other turns to come and another last turn. -/
def turned (l : Ledger) (rest : List SubscriptionId) (turn : Option SubscriptionId) : Ledger :=
  { l with rest, turn }

/-- The ledger after an announcement. -/
def announce (l : Ledger) : TraceEvent → Ledger
  | .datumCreated d _ owner => { l.touch (.datum d) with owner := Function.update l.owner d owner }
  | .closureCreated c _ _ => l.touch (.closure c)
  | .subscribed id source target selector =>
    { l with registered := Function.update l.registered id (some ⟨source, target, selector⟩) }
  | .unsubscribed id => { l with registered := Function.update l.registered id none }
  | .drainStarted .. => { l with draining := true }
  | .drainFinished .. => { l with draining := false }
  | e => match e.change? with
    | some (node, _) => l.touch node
    | none => l

/-- The ledger after an entry. -/
def record (l : Ledger) : Occurrence κ → Ledger
  | .announced e => l.announce e
  | .waveTaken generation wave => { l with generation, rest := wave, turn := none }
  | .started n => { l with rest := l.rest.tail, turn := some n.subscription }
  | .logged (.stale ..) => { l with rest := l.rest.tail, turn := none }
  | .logged (.callbackAborted ..) => { l with rest := [] }
  | _ => l

/-- The ledger of some entries. -/
def of (entries : List (Occurrence κ)) : Ledger := entries.foldl record blank

/-- A change of a node reaches a registered subscription: at the node, or carried to the owner. -/
def Hears (l : Ledger) (node : NodeId) (change : Change) (id : SubscriptionId) : Prop :=
  ∃ e, l.registered id = some e ∧
    (e.source = node ∧ e.selector.accepts change = true ∨
      ∃ d c, node = .datum d ∧ l.owner d = some c ∧ e.source = .closure c ∧
        e.selector.accepts .carried = true)

/-- An entry calls for the notification of a subscription: it announces a change that reaches it, or
the subscription itself, made when its source had changed in this generation. -/
def Calls (l : Ledger) (o : Occurrence κ) (id : SubscriptionId) : Prop :=
  (∃ e node change, o = .announced e ∧ e.change? = some (node, change) ∧ l.Hears node change id) ∨
    ∃ source target selector, o = .announced (.subscribed id source target selector) ∧
      l.stamp source = some l.generation

end Ledger

namespace Occurrence

/-- Whether an entry ends the time during which calls count for the next wave: that wave is taken,
or a drain ends. -/
def isBoundary : Occurrence κ → Bool
  | .waveTaken .. | .announced (.drainFinished ..) => true
  | _ => false

/-- The subscription whose turn has come. -/
def turn? : Occurrence κ → Option SubscriptionId
  | .started n => some n.subscription
  | .logged (.stale id _) => some id
  | _ => none

/-- The subscription whose callback starts. -/
def start? : Occurrence κ → Option SubscriptionId
  | .started n => some n.subscription
  | _ => none

end Occurrence

/-- A subscription is due: an entry called for it, and no boundary has come since. -/
def Due (entries : List (Occurrence κ)) (id : SubscriptionId) : Prop :=
  ∃ before o after, entries = before ++ o :: after ∧ (∀ b ∈ after, b.isBoundary = false) ∧
    (Ledger.of before).Calls o id

namespace Ledger

variable {l : Ledger} {entries : List (Occurrence κ)} {o : Occurrence κ}

@[simp] theorem of_snoc (entries : List (Occurrence κ)) (o : Occurrence κ) :
    of (entries ++ [o]) = (of entries).record o := by
  simp [of]

/-- Entries in a row are recorded one after another. -/
theorem of_append (entries more : List (Occurrence κ)) :
    of (entries ++ more) = more.foldl record (of entries) := by
  simp [of]

/-- A change that is announced stamps its node. -/
theorem announce_change {e : TraceEvent} {node : NodeId} {change : Change}
    (h : e.change? = some (node, change)) : l.announce e = l.touch node := by
  cases e <;> simp_all [announce, TraceEvent.change?]

/-- What announces no change and no subscription calls for nothing. -/
theorem not_calls (h : ∀ e, o = .announced e → e.mayCall = false) (id : SubscriptionId) :
    ¬ l.Calls o id := by
  rintro (⟨e, node, change, rfl, announces, _⟩ | ⟨_, _, _, rfl, _⟩)
  · have none := h e rfl
    cases e <;> simp_all [TraceEvent.change?, TraceEvent.mayCall]
  · exact absurd (h _ rfl) (by simp [TraceEvent.mayCall])

/-- A change that is announced calls for those that it reaches. -/
theorem calls_change {e : TraceEvent} {node : NodeId} {change : Change} {id : SubscriptionId}
    (announces : e.change? = some (node, change)) :
    l.Calls (.announced e : Occurrence κ) id ↔ l.Hears node change id := by
  constructor
  · rintro (⟨e', node', change', same, announces', hears⟩ | ⟨_, _, _, same, _⟩)
    · cases same
      rw [announces] at announces'
      cases announces'
      exact hears
    · cases same
      cases announces
  · intro hears
    exact .inl ⟨e, node, change, rfl, announces, hears⟩

/-- A new subscription calls for itself if its source was stamped in this generation. -/
theorem calls_subscribed {i id : SubscriptionId} {source target : NodeId} {selector : Selector} :
    l.Calls (.announced (.subscribed i source target selector) : Occurrence κ) id ↔
      id = i ∧ l.stamp source = some l.generation := by
  constructor
  · rintro (⟨e, node, change, same, announces, _⟩ | ⟨source', target', selector', same, stamp⟩)
    · cases same
      cases announces
    · cases same
      exact ⟨rfl, stamp⟩
  · rintro ⟨rfl, stamp⟩
    exact .inr ⟨source, target, selector, rfl, stamp⟩

/-- Only a drain moves the clock. -/
theorem announce_clock {e : TraceEvent} (h : e.isOfDrain = false) :
    (l.announce e).generation = l.generation ∧ (l.announce e).draining = l.draining ∧
      (l.announce e).rest = l.rest ∧ (l.announce e).turn = l.turn := by
  cases e <;> first | exact ⟨rfl, rfl, rfl, rfl⟩ | cases h

/-- A boundary calls for nobody. -/
theorem not_calls_boundary (h : o.isBoundary = true) (id : SubscriptionId) : ¬ l.Calls o id := by
  refine not_calls ?_ id
  rintro e rfl
  cases e <;> first | rfl | cases h

end Ledger

namespace Due

variable {entries : List (Occurrence κ)} {o : Occurrence κ} {id : SubscriptionId}

/-- Nobody is due at first. -/
theorem nil : ¬ Due ([] : List (Occurrence κ)) id := by
  rintro ⟨before, o, after, eq, _⟩
  exact absurd eq.symm (by simp)

/-- An entry makes due what it calls for, and what was due stays due unless it is a boundary. -/
theorem snoc : Due (entries ++ [o]) id ↔
    (Ledger.of entries).Calls o id ∨ o.isBoundary = false ∧ Due entries id := by
  constructor
  · rintro ⟨before, c, after, eq, inside, calls⟩
    rcases List.eq_nil_or_concat' after with rfl | ⟨after, last, rfl⟩
    · obtain ⟨rfl, same⟩ := List.append_inj' eq rfl
      cases same
      exact .inl calls
    · rw [← List.cons_append, ← List.append_assoc] at eq
      obtain ⟨rfl, same⟩ := List.append_inj' eq rfl
      cases same
      refine .inr ⟨inside o (by simp), before, c, after, rfl, ?_, calls⟩
      intro b hb
      exact inside b (by simp [hb])
  · rintro (calls | ⟨within, before, c, after, rfl, inside, calls⟩)
    · exact ⟨entries, o, [], rfl, by simp, calls⟩
    · refine ⟨before, c, after ++ [o], by simp, ?_, calls⟩
      intro b hb
      rcases List.mem_append.mp hb with hb | hb
      · exact inside b hb
      · rw [List.mem_singleton.mp hb]
        exact within

/-- Nobody is due right after a boundary. -/
theorem snoc_boundary (h : o.isBoundary = true) : ¬ Due (entries ++ [o]) id := by
  rw [snoc]
  rintro (calls | ⟨inside, _⟩)
  · exact Ledger.not_calls_boundary h id calls
  · rw [h] at inside
    cases inside

end Due

end ReactiveKernel
