import ReactiveKernel.Proofs.Bookkeeping.Posting

/-!
# The books balance

Whatever was posted so far determines the counters and stamps of all accounts: one more than there
are changes of the node, and for a closure those of its datums besides. Between two moments, the
writes that are posted for a field lead from the value that could be read at the first one to the
value that can be read at the second one, each from where the one before has left it.
-/

namespace ReactiveKernel

variable {κ : Type}

namespace TraceEvent

/-- The changes of a node among some events. -/
def changesOf (n : NodeId) (events : List TraceEvent) : List TraceEvent :=
  events.filter fun e => e.changed? = some n

/-- The datums that a closure owns or has owned, as some events say. -/
def ownedBy (c : ClosureId) (events : List TraceEvent) : List DatumId :=
  events.filterMap fun
    | .datumCreated d _ (some owner) => if owner = c then some d else none
    | _ => none

/-- The changes among some events of the datums that a closure owns or has owned. -/
def changesBelow (c : ClosureId) (events : List TraceEvent) : List TraceEvent :=
  events.filter fun e => ∃ d ∈ ownedBy c events, e.changed? = some (.datum d)

/-- What a write has found in a field, and what it has left there. -/
def write? (n : NodeId) (name : String) : TraceEvent → Option (Value × Value)
  | .fieldSet node field old new _ => if node = n ∧ field = name then some (old, new) else none
  | _ => none

/-- The writes to a field of a node among some events. -/
def writesTo (n : NodeId) (name : String) (events : List TraceEvent) : List (Value × Value) :=
  events.filterMap (write? n name)

variable {e : TraceEvent} {events more : List TraceEvent} {n : NodeId} {c : ClosureId} {d : DatumId}

/-- Events that tell of no change of a node add nothing to its changes. -/
theorem changesOf_append_of_silent (silent : ∀ e ∈ more, e.changed? ≠ some n) :
    changesOf n (events ++ more) = changesOf n events := by
  have none_more : changesOf n more = [] := by
    simpa [changesOf] using silent
  rw [changesOf, List.filter_append]
  exact (congrArg (_ ++ ·) none_more).trans (List.append_nil _)

/-- An event that tells of a change of a node is added to its changes. -/
theorem changesOf_snoc (changed : e.changed? = some n) :
    changesOf n (events ++ [e]) = changesOf n events ++ [e] := by
  simp [changesOf, changed]

/-- A closure owns or has owned a datum if it is announced as the owner where the datum is made. -/
theorem mem_ownedBy : d ∈ ownedBy c events ↔
    ∃ typeName, TraceEvent.datumCreated d typeName (some c) ∈ events := by
  simp only [ownedBy, List.mem_filterMap]
  constructor
  · rintro ⟨e, he, owned⟩
    split at owned
    · next typeName owner =>
      obtain ⟨rfl, same⟩ := Option.ite_none_right_eq_some.mp owned
      cases same
      exact ⟨typeName, he⟩
    · cases owned
  · rintro ⟨typeName, he⟩
    exact ⟨_, he, if_pos rfl⟩

/-- What a closure owns by events in a row is what it owns by either part. -/
theorem mem_ownedBy_append : d ∈ ownedBy c (events ++ more) ↔
    d ∈ ownedBy c events ∨ d ∈ ownedBy c more := by
  simp [ownedBy]

/-- What tells of something new does not tell of a change. -/
theorem not_changed_of_made {i : Identity} (made : e.made? = some i) (n : NodeId) :
    e.changed? ≠ some n := fun changed => by
  rw [made_of_changed changed] at made
  cases made

/-- Events that make nothing new do not make anybody an owner. -/
theorem not_mem_ownedBy (unmade : ∀ e ∈ more, e.made? ≠ some (.datum d)) : d ∉ ownedBy c more := by
  intro owned
  obtain ⟨typeName, he⟩ := mem_ownedBy.mp owned
  exact unmade _ he rfl

/-- There are no more changes below a closure if the new events are no such changes, and none of the
old ones has become one. -/
theorem changesBelow_append
    (old : ∀ e ∈ events, ∀ d, e.changed? = some (.datum d) → d ∉ ownedBy c more)
    (new : ∀ e ∈ more, ∀ d, e.changed? = some (.datum d) → d ∉ ownedBy c (events ++ more)) :
    changesBelow c (events ++ more) = changesBelow c events := by
  have nothing : (more.filter fun e =>
      ∃ d ∈ ownedBy c (events ++ more), e.changed? = some (.datum d)) = [] := by
    simp only [List.filter_eq_nil_iff, decide_eq_true_eq, not_exists, not_and]
    exact fun e he d owned changed => new e he d changed owned
  rw [changesBelow, List.filter_append, nothing, List.append_nil]
  refine List.filter_congr fun e he => decide_eq_decide.mpr (exists_congr fun d => ?_)
  rw [mem_ownedBy_append]
  constructor
  · rintro ⟨owned | owned, changed⟩
    · exact ⟨owned, changed⟩
    · exact absurd owned (old e he d changed)
  · exact fun ⟨owned, changed⟩ => ⟨.inl owned, changed⟩

/-- A change of an owned datum is added to the changes below its owner. -/
theorem changesBelow_snoc (changed : e.changed? = some (.datum d)) (owned : d ∈ ownedBy c events) :
    changesBelow c (events ++ [e]) = changesBelow c events ++ [e] := by
  have unmade (a : DatumId) : a ∉ ownedBy c [e] := by
    refine not_mem_ownedBy (List.forall_mem_singleton.mpr ?_)
    rw [made_of_changed changed]
    nofun
  have same (a : DatumId) : a ∈ ownedBy c (events ++ [e]) ↔ a ∈ ownedBy c events := by
    rw [mem_ownedBy_append, or_iff_left (unmade a)]
  simp only [changesBelow, List.filter_append, same]
  refine congrArg (_ ++ ·) (List.filter_cons_of_pos ?_)
  exact decide_eq_true ⟨d, owned, changed⟩

/-- An event that does not change a node writes to none of its fields. -/
theorem write_of_not_changed {name : String} (h : e.changed? ≠ some n) :
    e.write? n name = none := by
  cases e with
  | fieldSet node field old new generation =>
    refine if_neg fun same => h ?_
    rw [← same.1]
    rfl
  | _ => rfl

/-- The writes of events in a row are those of the first part and then those of the second part. -/
theorem writesTo_append (n : NodeId) (name : String) (events more : List TraceEvent) :
    writesTo n name (events ++ more) = writesTo n name events ++ writesTo n name more :=
  List.filterMap_append

/-- Events that tell of no change of a node write to none of its fields. -/
theorem writesTo_of_silent (silent : ∀ e ∈ events, e.changed? ≠ some n) (name : String) :
    writesTo n name events = [] :=
  List.filterMap_eq_nil_iff.mpr fun e he => write_of_not_changed (silent e he)

end TraceEvent

open TraceEvent

/-! The counters. -/

/-- How many changes of its datums a node counts. -/
def NodeId.below (events : List TraceEvent) : NodeId → Nat
  | .datum _ => 0
  | .closure c => (changesBelow c events).length

/-- What is counted and stamped at a node is what some events say. -/
structure Account.Tallies (n : NodeId) (events : List TraceEvent) (a : Account) : Prop where
  /-- Changes of the node are counted. -/
  structural : a.revisions.structural = 1 + (changesOf n events).length
  /-- Changes of its datums are counted as well. -/
  carried : a.revisions.carried = 1 + (changesOf n events).length + n.below events
  /-- The last change has stamped it. -/
  stamp : ∀ e, (changesOf n events).getLast? = some e → e.stamp? = some a.setGeneration

namespace Account.Tallies

variable {n : NodeId} {events events' : List TraceEvent} {a : Account} {e : TraceEvent}

/-- An account agrees with other events that tell of the same changes. -/
theorem of_same (h : a.Tallies n events) (changes : changesOf n events' = changesOf n events)
    (below : n.below events' = n.below events) : a.Tallies n events' :=
  ⟨changes ▸ h.structural, changes ▸ below ▸ h.carried, changes ▸ h.stamp⟩

/-- Nothing was counted at a new node. -/
theorem opened (changes : changesOf n events = []) (below : n.below events = 0) (slot : Slot)
    (generation : Nat) (owner : Option ClosureId) :
    (Account.opened slot generation owner).Tallies n events := by
  refine ⟨?_, ?_, ?_⟩
  · rw [changes]
    rfl
  · rw [changes, below]
    rfl
  · rw [changes]
    nofun

/-- A change of the node is counted and stamped as it is told. -/
theorem touch (h : a.Tallies n events) {generation : Nat} (changed : e.changed? = some n)
    (stamp : e.stamp? = some generation) (below : n.below (events ++ [e]) = n.below events)
    (slot : Slot) : (a.touch slot generation).Tallies n (events ++ [e]) := by
  have count : (changesOf n (events ++ [e])).length = (changesOf n events).length + 1 := by
    rw [changesOf_snoc changed, List.length_append]
    rfl
  refine ⟨?_, ?_, fun e' last => ?_⟩
  · rw [count, ← Nat.add_assoc, ← h.structural]
    rfl
  · have carried : (a.touch slot generation).revisions.carried = a.revisions.carried + 1 := rfl
    rw [count, below, carried, h.carried]
    omega
  · rw [changesOf_snoc changed, List.getLast?_concat] at last
    cases last
    exact stamp

/-- A change of an owned datum is counted at its owner as it is told. -/
theorem carry (h : a.Tallies n events) (changes : changesOf n events' = changesOf n events)
    (below : n.below events' = n.below events + 1) : a.carry.Tallies n events' := by
  refine ⟨changes ▸ h.structural, ?_, changes ▸ h.stamp⟩
  have carried : a.carry.revisions.carried = a.revisions.carried + 1 := rfl
  rw [changes, below, carried, h.carried]
  rfl

end Account.Tallies

/-- What events say of identities and owners holds in a state. -/
structure State.Filed (s : State κ) (events : List TraceEvent) : Prop where
  /-- Changes are told of nodes that were given out. -/
  known : ∀ e ∈ events, ∀ n, e.changed? = some n → s.Given n.identity
  /-- What is told to be made was given out. -/
  made : ∀ e ∈ events, ∀ n : NodeId, e.made? = some n.identity → s.Given n.identity
  /-- Owners were given out. -/
  holder : ∀ c d, d ∈ ownedBy c events → s.Given (.closure c)
  /-- Live datums have the owners that they were made with. -/
  owner : ∀ d a, s.account? (.datum d) = some a → ∀ c, d ∈ ownedBy c events ↔ a.owner = some c

/-- The accounts of a state are what events say. -/
structure State.Balanced (s : State κ) (events : List TraceEvent) : Prop
    extends s.Filed events where
  /-- All of them. -/
  tallies : ∀ n a, s.account? n = some a → a.Tallies n events

namespace State

variable {s t : State κ} {events more : List TraceEvent} {e : TraceEvent} {node : NodeId}

/-! Events that tell of no account. -/

section

variable (keeps : s.Keeps more t)

include keeps

/-- Events that tell of no account tell of no datum that is owned. -/
theorem Keeps.unowned (c : ClosureId) (d : DatumId) : d ∉ ownedBy c more :=
  not_mem_ownedBy fun e he => made_of_not_posted (keeps.silent e he) (.datum d)

/-- Events that tell of no account tell of no change. -/
theorem Keeps.unchanged (n : NodeId) : ∀ e ∈ more, e.changed? ≠ some n := fun e he => by
  rw [changed_of_not_posted (keeps.silent e he)]
  nofun

/-- Identities and owners are still what the events say if more of them tell of no account. -/
theorem Filed.kept (h : s.Filed events) : t.Filed (events ++ more) where
  known e he n changed := by
    rcases List.mem_append.mp he with old | new
    · exact (keeps.given n).mpr (h.known e old n changed)
    · exact absurd changed (keeps.unchanged n e new)
  made e he n made := by
    rcases List.mem_append.mp he with old | new
    · exact (keeps.given n).mpr (h.made e old n made)
    · exact absurd made (made_of_not_posted (keeps.silent e new) n)
  holder c d hd := by
    rw [mem_ownedBy_append, or_iff_left (keeps.unowned c d)] at hd
    exact (keeps.given (.closure c)).mpr (h.holder c d hd)
  owner d a live c := by
    rw [mem_ownedBy_append, or_iff_left (keeps.unowned c d)]
    exact h.owner d a (keeps.accounts _ a live) c

/-- Accounts are still what the events say if more of them tell of no account. -/
theorem Balanced.kept (h : s.Balanced events) : t.Balanced (events ++ more) where
  toFiled := h.toFiled.kept keeps
  tallies n a live := by
    have changes : changesOf n (events ++ more) = changesOf n events :=
      changesOf_append_of_silent (keeps.unchanged n)
    refine (h.tallies n a (keeps.accounts n a live)).of_same changes ?_
    cases n with
    | datum d => rfl
    | closure c =>
      exact congrArg List.length (changesBelow_append (fun _ _ d _ => keeps.unowned c d)
        fun e he d changed => absurd changed (keeps.unchanged _ e he))

end

/-! A new account. -/

section

variable {slot : Slot} {owner : Option ClosureId} (opens : s.Opens e node slot owner t)

include opens

/-- The event of a new node tells of no change. -/
theorem Opens.unchanged (n : NodeId) : ∀ e' ∈ [e], e'.changed? ≠ some n :=
  List.forall_mem_singleton.mpr (not_changed_of_made opens.made n)

/-- The event of a new node tells who owns it, and of nobody else. -/
theorem Opens.mem_ownedBy (c : ClosureId) (d : DatumId) :
    d ∈ ownedBy c [e] ↔ node = .datum d ∧ owner = some c := by
  rw [TraceEvent.mem_ownedBy, ← opens.owned]
  simp [eq_comm]

/-- The event of a new node files its identity and its owner. -/
theorem Filed.opened (h : s.Filed events) : t.Filed (events ++ [e]) where
  known e' he n changed := by
    rcases List.mem_append.mp he with old | new
    · exact (opens.given n).mpr (.inl (h.known e' old n changed))
    · exact absurd changed (opens.unchanged n e' new)
  made e' he n made := by
    rcases List.mem_append.mp he with old | new
    · exact (opens.given n).mpr (.inl (h.made e' old n made))
    · rw [List.mem_singleton.mp new, opens.made] at made
      exact (opens.given n).mpr (.inr (NodeId.identity_inj (Option.some.inj made).symm))
  holder c d hd := by
    refine (opens.given (.closure c)).mpr (.inl ?_)
    rcases mem_ownedBy_append.mp hd with old | here
    · exact h.holder c d old
    · exact opens.holder c ((opens.mem_ownedBy c d).mp here).2
  owner d a live c := by
    rw [opens.accounts] at live
    rw [mem_ownedBy_append, opens.mem_ownedBy]
    split at live
    · next same =>
      cases live
      have unowned : d ∉ ownedBy c events := fun hd => by
        obtain ⟨typeName, he⟩ := TraceEvent.mem_ownedBy.mp hd
        exact opens.fresh (same ▸ h.made _ he (.datum d) rfl)
      rw [or_iff_right unowned, and_iff_right same.symm]
      rfl
    · next other =>
      rw [or_iff_left fun here => other here.1.symm]
      exact h.owner d a live c

/-- Of a new node nothing was told before. -/
theorem Filed.blank (h : s.Filed events) : changesOf node events = [] ∧ node.below events = 0 := by
  constructor
  · refine List.filter_eq_nil_iff.mpr fun e' he changed => ?_
    exact opens.fresh (h.known e' he node (of_decide_eq_true changed))
  · cases node with
    | datum d => rfl
    | closure c =>
      refine List.length_eq_zero_iff.mpr (List.filter_eq_nil_iff.mpr fun e' _ below => ?_)
      obtain ⟨d, hd, _⟩ := of_decide_eq_true below
      exact opens.fresh (h.holder c d hd)

/-- Accounts are still what the events say when a new node is told of. -/
theorem Balanced.opened (h : s.Balanced events) : t.Balanced (events ++ [e]) where
  toFiled := h.toFiled.opened opens
  tallies n a live := by
    have changes : changesOf n (events ++ [e]) = changesOf n events :=
      changesOf_append_of_silent (opens.unchanged n)
    have below : n.below (events ++ [e]) = n.below events := by
      cases n with
      | datum d => rfl
      | closure c =>
        refine congrArg List.length (changesBelow_append (fun e' he d changed hd => ?_)
          fun e' he d changed => absurd changed (opens.unchanged _ e' he))
        obtain ⟨rfl, _⟩ := (opens.mem_ownedBy c d).mp hd
        exact opens.fresh (h.known e' he _ changed)
    rw [opens.accounts] at live
    split at live
    · next same =>
      cases same
      cases live
      obtain ⟨unchanged, none_below⟩ := h.toFiled.blank opens
      exact (Account.Tallies.opened unchanged none_below _ _ _).of_same changes below
    · exact (h.tallies n a live).of_same changes below

end

/-! A change. -/

section

variable {a : Account} {slot : Slot} (alters : s.Alters e node a slot t)

include alters

/-- The event of a change tells of no datum that is owned. -/
theorem Alters.unowned (c : ClosureId) (d : DatumId) : d ∉ ownedBy c [e] := by
  refine not_mem_ownedBy (List.forall_mem_singleton.mpr ?_)
  rw [made_of_changed alters.tells.changed]
  nofun

/-- The event of a change tells of no new owner. -/
theorem Alters.mem_ownedBy (c : ClosureId) (d : DatumId) :
    d ∈ ownedBy c (events ++ [e]) ↔ d ∈ ownedBy c events := by
  rw [mem_ownedBy_append, or_iff_left (alters.unowned c d)]

/-- The event of a change tells of no change of any other node. -/
theorem Alters.unchanged {n : NodeId} (other : n ≠ node) : ∀ e' ∈ [e], e'.changed? ≠ some n := by
  refine List.forall_mem_singleton.mpr ?_
  rw [alters.tells.changed]
  exact fun same => other (Option.some.inj same).symm

/-- What is live after a change was live, and is written as it was unless it is the node. -/
theorem Alters.before {n : NodeId} {b : Account} (live : t.account? n = some b) :
    n = node ∧ b = a.touch slot s.generation ∨
      n ≠ node ∧ ∃ b', s.account? n = some b' ∧
        ((∃ c, a.owner = some c ∧ n = .closure c ∧ b = b'.carry) ∨
          (∀ c, a.owner = some c → n ≠ .closure c) ∧ b = b') := by
  by_cases same : n = node
  · subst same
    rw [alters.here] at live
    cases live
    exact .inl ⟨rfl, rfl⟩
  · refine .inr ⟨same, ?_⟩
    by_cases owner : ∃ c, a.owner = some c ∧ n = .closure c
    · obtain ⟨c, owns, rfl⟩ := owner
      rw [alters.above c owns] at live
      obtain ⟨b', was, rfl⟩ := Option.map_eq_some_iff.mp live
      exact ⟨b', was, .inl ⟨c, owns, rfl, rfl⟩⟩
    · have unowned : ∀ c, a.owner = some c → n ≠ .closure c := fun c owns is => owner ⟨c, owns, is⟩
      exact ⟨b, (alters.other n same unowned).symm.trans live, .inr ⟨unowned, rfl⟩⟩

/-- The event of a change leaves identities and owners as they are filed. -/
theorem Filed.changed (h : s.Filed events) (issued : s.Issued) : t.Filed (events ++ [e]) where
  known e' he n changed := by
    rcases List.mem_append.mp he with old | new
    · exact (alters.given n).mpr (h.known e' old n changed)
    · rw [List.mem_singleton.mp new, alters.tells.changed] at changed
      cases changed
      exact (alters.given node).mpr (issued.given_of_account alters.was)
  made e' he n made := by
    rcases List.mem_append.mp he with old | new
    · exact (alters.given n).mpr (h.made e' old n made)
    · rw [List.mem_singleton.mp new, made_of_changed alters.tells.changed] at made
      cases made
  holder c d hd := (alters.given (.closure c)).mpr (h.holder c d ((alters.mem_ownedBy c d).mp hd))
  owner d b live c := by
    rw [alters.mem_ownedBy]
    rcases alters.before live with ⟨rfl, rfl⟩ | ⟨_, b', was, ⟨_, _, is, _⟩ | ⟨_, rfl⟩⟩
    · exact h.owner d a alters.was c
    · cases is
    · exact h.owner d b was c

/-- A closure that is not the owner counts no more changes of its datums. -/
theorem Filed.below_of_changed (h : s.Filed events) {n : NodeId}
    (unowned : ∀ c, a.owner = some c → n ≠ .closure c) :
    n.below (events ++ [e]) = n.below events := by
  cases n with
  | datum d => rfl
  | closure c =>
    refine congrArg List.length (changesBelow_append (fun _ _ d _ => alters.unowned c d)
      (List.forall_mem_singleton.mpr fun d changed hd => ?_))
    rw [alters.tells.changed] at changed
    cases changed
    exact unowned c ((h.owner d a alters.was c).mp ((alters.mem_ownedBy c d).mp hd)) rfl

/-- The owner counts one more. -/
theorem Filed.below_owner (h : s.Filed events) {c : ClosureId} {d : DatumId}
    (is : node = .datum d) (owner : a.owner = some c) :
    (NodeId.closure c).below (events ++ [e]) = (NodeId.closure c).below events + 1 := by
  subst is
  have owned := (h.owner d a alters.was c).mpr owner
  simp only [NodeId.below, changesBelow_snoc alters.tells.changed owned, List.length_append,
    List.length_singleton]

/-- Nobody owns a closure. -/
theorem Alters.is_datum {c : ClosureId} (owner : a.owner = some c) : ∃ d, node = .datum d := by
  cases node with
  | datum d => exact ⟨d, rfl⟩
  | closure b =>
    obtain ⟨x, _, rfl⟩ := account_closure_iff.mp alters.was
    cases owner

/-- Accounts are still what the events say when a change is told of. -/
theorem Balanced.changed (h : s.Balanced events) (issued : s.Issued) :
    t.Balanced (events ++ [e]) where
  toFiled := h.toFiled.changed alters issued
  tallies n b live := by
    rcases alters.before live with
      ⟨rfl, rfl⟩ | ⟨other, b', was, ⟨c, owner, rfl, rfl⟩ | ⟨unowned, rfl⟩⟩
    · refine (h.tallies n a alters.was).touch alters.tells.changed alters.tells.stamp ?_ slot
      refine h.toFiled.below_of_changed alters fun c owner is => ?_
      obtain ⟨d, is'⟩ := alters.is_datum owner
      cases is.symm.trans is'
    · obtain ⟨d, is⟩ := alters.is_datum owner
      exact (h.tallies _ b' was).carry (changesOf_append_of_silent (alters.unchanged other))
        (h.toFiled.below_owner alters is owner)
    · exact (h.tallies n b was).of_same (changesOf_append_of_silent (alters.unchanged other))
        (h.toFiled.below_of_changed alters unowned)

end

end State

end ReactiveKernel
