import ReactiveKernel.Proofs.Network.Write

/-!
# Changes as writes

The state after a change is a function of the state before it, of the node and of its new slot, up
to the order in which subscriptions became pending. Writes to different nodes commute, also when one
node owns the other, since counting at the owner commutes with everything. Of two writes to one node
the slot of the last one remains, and both of them count.
-/

namespace ReactiveKernel

variable {κ : Type}

/-- The slot is one of a node of this kind. -/
def Slot.Fits : Slot → NodeId → Prop
  | .datum _ _, .datum _ => True
  | .closure _, .closure _ => True
  | _, _ => False

/-- The datum after a change that writes a slot. -/
def Datum.written (x : Datum) (slot : Slot) (now : Nat) : Datum :=
  match slot with
  | .datum content status => { x with content, status }.touch now
  | .closure _ => x.touch now

/-- The closure after a change that writes a slot. -/
def Closure.written (x : Closure) (slot : Slot) (now : Nat) : Closure :=
  match slot with
  | .closure fields => { x with fields }.touch now
  | .datum _ _ => x.touch now

@[simp] theorem Datum.owner_written (x : Datum) (slot : Slot) (now : Nat) :
    (x.written slot now).owner = x.owner := by
  cases slot <;> rfl

/-- It does not matter whether a write or a carried change is counted first. -/
theorem Closure.written_bumped (x : Closure) (slot : Slot) (now : Nat) :
    x.bumped.written slot now = (x.written slot now).bumped := by
  cases slot <;> rfl

namespace State

/-- The closure that owns a node. -/
def ownerOf (s : State κ) : NodeId → Option ClosureId
  | .datum d => (s.datums[d]?).bind Datum.owner
  | .closure _ => none

/-- The state after a write, before anything becomes pending. -/
def write (s : State κ) (node : NodeId) (slot : Slot) : State κ :=
  { s with
    datums := s.datums.map fun d x => if node = .datum d then x.written slot s.generation else x
    closures := s.closures.map fun c x =>
      if node = .closure c then x.written slot s.generation
      else if s.ownerOf node = some c then x.bumped else x }

variable {s t t' u u' : State κ} {node other : NodeId} {change change' : Change}
  {slot slot' : Slot}

/-- The closure that owns a node is the one in its record. -/
theorem ownerOf_eq_some {c : ClosureId} : s.ownerOf node = some c ↔ s.Owns c node := by
  cases node with
  | datum d =>
    rw [ownerOf, Option.bind_eq_some_iff]
    constructor
    · rintro ⟨x, hx, owner⟩
      exact ⟨d, x, rfl, hx, owner⟩
    · rintro ⟨_, x, same, hx, owner⟩
      cases same
      exact ⟨x, hx, owner⟩
  | closure c => exact iff_of_false (fun eq => nomatch eq) not_owns_closure

@[simp] theorem getElem?_datums_write (s : State κ) (node : NodeId) (slot : Slot) (d : DatumId) :
    (s.write node slot).datums[d]? = (s.datums[d]?).map fun x =>
      if node = .datum d then x.written slot s.generation else x := by
  simp [write]

@[simp] theorem getElem?_closures_write (s : State κ) (node : NodeId) (slot : Slot)
    (c : ClosureId) : (s.write node slot).closures[c]? = (s.closures[c]?).map fun x =>
      if node = .closure c then x.written slot s.generation
      else if s.ownerOf node = some c then x.bumped else x := by
  simp [write]

@[simp] theorem generation_write (s : State κ) (node : NodeId) (slot : Slot) :
    (s.write node slot).generation = s.generation := by
  simp only [write, generation]

@[simp] theorem ownerOf_write (s : State κ) (node other : NodeId) (slot : Slot) :
    (s.write node slot).ownerOf other = s.ownerOf other := by
  cases other with
  | datum d =>
    simp only [ownerOf, getElem?_datums_write]
    cases s.datums[d]? with
    | none => rfl
    | some x =>
      simp only [Option.map_some, Option.bind_some]
      split <;> simp
  | closure c => rfl

/-- Writes to different nodes commute. -/
theorem write_comm (ne : node ≠ other) :
    (s.write node slot).write other slot' = (s.write other slot').write node slot := by
  refine ext_tables rfl rfl (fun d => ?_) (fun c => ?_) rfl rfl rfl rfl
  · simp only [getElem?_datums_write, generation_write, Option.map_map]
    refine congrArg (Option.map · _) (funext fun x => ?_)
    by_cases here : node = .datum d
    · have there : other ≠ .datum d := here ▸ ne.symm
      simp [here, there]
    · simp [here]
  · simp only [getElem?_closures_write, generation_write, ownerOf_write, Option.map_map]
    refine congrArg (Option.map · _) (funext fun x => ?_)
    by_cases here : node = .closure c
    · have there : other ≠ .closure c := here ▸ ne.symm
      by_cases owns : s.ownerOf other = some c
      · simp [here, there, owns, Closure.written_bumped]
      · simp [here, there, owns]
    · by_cases there : other = .closure c
      · by_cases owns : s.ownerOf node = some c
        · simp [here, there, owns, Closure.written_bumped]
        · simp [here, there, owns]
      · by_cases owns : s.ownerOf node = some c
        · by_cases owns' : s.ownerOf other = some c
          · simp [here, there, owns, owns']
          · simp [here, there, owns, owns']
        · simp [here, there, owns]

/-- What was written first to a node is lost, but it counts. -/
theorem write_write (fits : slot'.Fits node) (first second : Slot) :
    (s.write node first).write node slot' = (s.write node second).write node slot' := by
  refine ext_tables rfl rfl (fun d => ?_) (fun c => ?_) rfl rfl rfl rfl
  · simp only [getElem?_datums_write, generation_write, Option.map_map]
    refine congrArg (Option.map · _) (funext fun x => ?_)
    by_cases here : node = .datum d
    · subst here
      cases slot' with
      | closure _ => exact fits.elim
      | datum content status =>
        simp only [Function.comp_apply, if_true]
        cases first <;> cases second <;> rfl
    · simp [here]
  · simp only [getElem?_closures_write, generation_write, ownerOf_write, Option.map_map]
    refine congrArg (Option.map · _) (funext fun x => ?_)
    by_cases here : node = .closure c
    · subst here
      cases slot' with
      | datum _ _ => exact fits.elim
      | closure fields =>
        simp only [Function.comp_apply, if_true]
        cases first <;> cases second <;> rfl
    · simp [here]

namespace Mutates

/-- The new slot is one of the node. -/
theorem fits (h : s.Mutates node change slot t) : slot.Fits node := by
  cases node with
  | datum d =>
    obtain ⟨_, _, _, _, rfl, _⟩ := h.datum d rfl
    trivial
  | closure c =>
    obtain ⟨_, _, _, rfl, _⟩ := h.closure c rfl
    trivial

/-- A change writes the new slot and makes subscriptions pending. -/
theorem state (h : s.Mutates node change slot t) :
    t = (s.write node slot).withPending t.schedule.pending := by
  have datums (d : DatumId) : t.datums[d]? = (s.write node slot).datums[d]? := by
    rw [getElem?_datums_write]
    by_cases here : node = .datum d
    · obtain ⟨x, content, status, hx, rfl, now⟩ := h.datum d here
      rw [now, hx, Option.map_some, if_pos here]
      rfl
    · simp [h.other_datums d here, here]
  have closures (c : ClosureId) : t.closures[c]? = (s.write node slot).closures[c]? := by
    rw [getElem?_closures_write]
    by_cases here : node = .closure c
    · obtain ⟨x, fields, hx, rfl, now⟩ := h.closure c here
      rw [now, hx, Option.map_some, if_pos here]
      rfl
    · by_cases owns : s.Owns c node
      · obtain ⟨x, hx, now⟩ := h.owner c owns
        rw [now, hx, Option.map_some, if_neg here, if_pos (ownerOf_eq_some.mpr owns)]
        rfl
      · have unowned : s.ownerOf node ≠ some c := fun owner => owns (ownerOf_eq_some.mp owner)
        simp [h.other_closures c here owns, here, unowned]
  have rest := h.rest
  refine ext_tables ?_ ?_ datums closures ?_ ?_ ?_ ?_
  all_goals
    rw [rest]
    rfl

/-- A change is decided by its node, its kind and its slot. -/
theorem unique (h : s.Mutates node change slot t) (h' : s.Mutates node change slot t') :
    t = t' := by
  have pending : t.schedule.pending = t'.schedule.pending :=
    Std.ExtTreeSet.ext_mem fun id => by rw [h.mem_pending, h'.mem_pending]
  rw [h.state, h'.state, pending]

/-- A change moves no edge and no owner. -/
theorem hears (h : s.Mutates node change slot t) (id : SubscriptionId) :
    t.Hears other change' id ↔ s.Hears other change' id := by
  have edges : t.edges = s.edges := by rw [h.rest]
  have owners (c : ClosureId) : t.Owns c other ↔ s.Owns c other := by
    have owner : t.ownerOf other = (s.write node slot).ownerOf other := by
      rw [h.state]
      cases other <;> rfl
    rw [← ownerOf_eq_some, ← ownerOf_eq_some, owner, ownerOf_write]
  simp only [Hears, Matches, edges, owners]

/-- Two changes, one after the other, as writes. -/
theorem state_trans (h : s.Mutates node change slot t) (h' : t.Mutates other change' slot' u) :
    u = ((s.write node slot).write other slot').withPending u.schedule.pending := by
  have first := h.state
  generalize t.schedule.pending = p at first
  subst first
  exact h'.state

/-- Two changes in either order lead to the same state, if the slots of their nodes end up the same:
they are of different nodes, or of one node whose last slot is the same in both orders. -/
theorem comm {first second last last' : Slot} (h : s.Mutates node change first t)
    (h' : t.Mutates other change' last' u) (g : s.Mutates other change' second t')
    (g' : t'.Mutates node change last u')
    (agree : node ≠ other ∧ first = last ∧ second = last' ∨ node = other ∧ last' = last) :
    u = u' := by
  have pending : u.schedule.pending = u'.schedule.pending :=
    Std.ExtTreeSet.ext_mem fun id => by
      rw [h'.mem_pending, h.mem_pending, h.hears, g'.mem_pending, g.mem_pending, g.hears, or_assoc,
        or_assoc, or_comm (a := s.Hears node change id)]
  have written : (s.write node first).write other last' =
      (s.write other second).write node last := by
    rcases agree with ⟨ne, rfl, rfl⟩ | ⟨rfl, rfl⟩
    · exact write_comm ne
    · exact write_write h'.fits first second
  rw [h.state_trans h', g.state_trans g', written, pending]

/-- The node has the new slot. -/
theorem slot?_self (h : s.Mutates node change slot t) : t.slot? node = some slot := by
  rw [h.slot?, if_pos rfl]

/-- Every other node keeps its slot, also the owner. -/
theorem slot?_other (h : s.Mutates node change slot t) (ne : node ≠ other) :
    t.slot? other = s.slot? other := by
  rw [h.slot?, if_neg ne.symm]

end Mutates

end State

end ReactiveKernel
