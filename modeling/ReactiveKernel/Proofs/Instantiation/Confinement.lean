import ReactiveKernel.Proofs.Instantiation.Failure
import ReactiveKernel.Proofs.Mutation
import ReactiveKernel.Proofs.Run.Scope
import ReactiveKernel.Proofs.State.Enclosure

/-!
# Building inside a subtree

While a closure is built, host code may keep to the subtree of that closure: it makes nodes there,
subscriptions that touch it, and changes or destroys nothing else. Then everything new stays
enclosed, and of the subscriptions that were there before, none becomes pending.
-/

namespace ReactiveKernel

variable {κ : Type}

namespace State

/-- A node is in the subtree of a closure, unless it is not live. -/
def Inside (s : State κ) (c : ClosureId) (node : NodeId) : Prop :=
  s.contains node = true → s.Below c node

end State

/-- A command keeps to the subtree of a closure. -/
def Command.Within (c : ClosureId) (s : State κ) : Command κ → Prop
  | .createDatum _ _ holder | .createCollection _ _ holder | .createClosure _ holder =>
    ∃ o, holder = some o ∧ s.Inside c (.closure o)
  | .subscribe source target _ _ => s.Inside c source ∨ s.Inside c target
  | .unsubscribe id => s.Touches (s.Below c) id ∨ id ∉ s.edges.subscriptions
  | .set node _ _ => s.Inside c node
  | .setItems d _ | .setItem d _ _ | .pushItem d _ | .removeItem d _ | .setAvailability d _
  | .setError d _ | .destroyDatum d => s.Inside c (.datum d)
  | .destroyClosure b => s.Inside c (.closure b)
  | .putEvent _ | .register _ _ => True

/-- A call builds in the subtree of a closure. -/
def Call.Within (c : ClosureId) (s : State κ) : Call → Prop
  | .instantiate _ parent _ => ∃ p, parent = some p ∧ s.Inside c (.closure p)
  | .callSite p _ => s.Inside c (.closure p)
  | .run _ | .drain | .drainEvents => False

/-- Host code keeps to the subtree of a closure; it may look at anything. -/
def Scope.within (c : ClosureId) : Scope κ where
  command cmd k := cmd.Within c k.toState
  probe _ _ := True
  call cmd k := cmd.Within c k.toState

namespace State

/-- Since an earlier state, all that is new is in the subtree of the closure that was made next, and
no old subscription has become pending. -/
structure Confines (s₀ s : State κ) : Prop where
  /-- The state is consistent. -/
  consistent : s.Consistent
  /-- The state is a later one. -/
  evolves : s₀.Evolves s
  /-- What is new is below the closure. -/
  encloses : s₀.Encloses s s₀.nextClosure
  /-- What was pending still is. -/
  kept : ∀ id ∈ s₀.schedule.pending, id ∈ s.schedule.pending
  /-- What has become pending is a new subscription. -/
  fresh : ∀ id ∈ s.schedule.pending,
    id ∈ s₀.schedule.pending ∨ s₀.nextSubscription.raw ≤ id.raw

/-- A closure is to be attached in the subtree, or it is the first one that is made. -/
def Admits (s₀ s : State κ) (holder : Option ClosureId) : Prop :=
  s.nextClosure = s₀.nextClosure ∨ ∃ p, holder = some p ∧ s.Inside s₀.nextClosure (.closure p)

variable {s₀ s t : State κ}

theorem Confines.refl (consistent : s.Consistent) : s.Confines s :=
  ⟨consistent, .refl s, .refl consistent, fun _ h => h, fun _ h => .inl h⟩

/-- Subscriptions that touch the subtree are new. -/
theorem Confines.new_of_touches (h : s₀.Confines s) {id : SubscriptionId}
    (touches : s.Touches (s.Below s₀.nextClosure) id) : s₀.nextSubscription.raw ≤ id.raw := by
  refine Nat.le_of_not_lt fun old => ?_
  obtain ⟨e, he, ends⟩ := touches
  have before := h.evolves.registered id (Kernel.mem_subscriptions.mpr ⟨e, he⟩) old
  rw [← h.encloses.outside.edges] at before
  obtain ⟨e', he'⟩ := Kernel.mem_subscriptions.mp before
  exact ((EdgeTable.subscriptions_without_eq_some s.edges).mp he').1 ⟨e, he, ends⟩

/-- A closure that is not older than the one that was made next is in its subtree. -/
theorem Confines.inside (h : s₀.Confines s) {b : ClosureId}
    (new : s₀.nextClosure.index ≤ b.index) : s.Inside s₀.nextClosure (.closure b) := by
  intro live
  obtain ⟨x, hx⟩ := contains_closure.mp live
  exact h.encloses.inside b (mem_closures hx) new

/-- The owner of a datum in a subtree is in the subtree. -/
theorem Forest.owner_below (forest : s.Forest) {c b : ClosureId} {node : NodeId}
    (below : s.Below c node) (owns : s.Owns b node) : s.Below c (.closure b) := by
  obtain ⟨d, x, rfl, hx, owner⟩ := owns
  obtain ⟨_, y, o, hy, owner', descends⟩ := forest.below_iff_subtree.mp below
  cases hx.symm.trans hy
  cases owner.symm.trans owner'
  obtain ⟨z, hz, _⟩ := forest.complete.owner d x hx b owner
  exact forest.complete.below_of_descends (mem_closures hz) descends

/-- What hears a change in the subtree is new. -/
theorem Confines.new_of_hears (h : s₀.Confines s) {node : NodeId} {change : Change}
    {id : SubscriptionId} (below : s.Below s₀.nextClosure node) (hears : s.Hears node change id) :
    s₀.nextSubscription.raw ≤ id.raw := by
  rcases hears with ⟨e, he, rfl, _⟩ | ⟨b, owns, e, he, starts, _⟩
  · exact h.new_of_touches ⟨e, he, .inl below⟩
  · refine h.new_of_touches ⟨e, he, .inl ?_⟩
    rw [starts]
    exact h.consistent.forest.owner_below below owns

end State

namespace Kernel

open State

variable {s₀ : State κ} {k k' : Kernel κ} {order : EdgeOrder κ}

/-- An action that leaves all enclosed, and at most makes new subscriptions pending. -/
theorem confines_action (h : s₀.Confines k.toState) (action : k.Action order k')
    (encloses : s₀.Encloses k'.toState s₀.nextClosure)
    (kept : ∀ id ∈ k.schedule.pending, id ∈ k'.schedule.pending)
    (fresh : ∀ id ∈ k'.schedule.pending,
      id ∈ k.schedule.pending ∨ s₀.nextSubscription.raw ≤ id.raw) : s₀.Confines k'.toState := by
  obtain ⟨_, effect⟩ := action.effect h.consistent
  refine ⟨effect.consistent h.consistent, h.evolves.trans effect.evolves, encloses, ?_, ?_⟩
  · intro id hid
    exact kept id (h.kept id hid)
  · intro id hid
    exact (fresh id hid).elim (h.fresh id) .inr

/-- An action that leaves all enclosed and the schedule alone. -/
theorem confines_quiet (h : s₀.Confines k.toState) (action : k.Action order k')
    (encloses : s₀.Encloses k'.toState s₀.nextClosure)
    (pending : k'.schedule.pending = k.schedule.pending) : s₀.Confines k'.toState :=
  confines_action h action encloses (fun _ hid => pending ▸ hid) fun _ hid => .inl (pending ▸ hid)

/-- An action that leaves the tables and the schedule alone. -/
theorem confines_idle (h : s₀.Confines k.toState) (action : k.Action order k')
    (tables : k.toState.SameTables k'.toState)
    (pending : k'.schedule.pending = k.schedule.pending) : s₀.Confines k'.toState :=
  confines_quiet h action (h.encloses.same tables) pending

/-- A datum that is made for a closure of the subtree is in the subtree. -/
theorem confines_createNode (h : s₀.Confines k.toState) (action : k.Action order k')
    {typeName : String} {content : Content} {owner : Option ClosureId} {d : DatumId}
    (within : ∃ o, owner = some o ∧ k.toState.Inside s₀.nextClosure (.closure o))
    (made : k.createNode typeName content owner = .ok (d, k')) : s₀.Confines k'.toState := by
  obtain ⟨o, rfl, inside⟩ := within
  obtain ⟨live, _, state⟩ := createNode_spec made
  obtain ⟨x, hx⟩ := exists_closure (live o rfl)
  refine confines_quiet h action ?_ (by rw [state]; rfl)
  rw [state]
  exact h.encloses.addDatum h.consistent typeName content (inside (contains_closure.mpr ⟨x, hx⟩))

/-- A closure that is made inside the subtree, or that is the first one made. -/
theorem confines_createClosure (h : s₀.Confines k.toState) (action : k.Action order k')
    {template : String} {parent : Option ClosureId} {c : ClosureId}
    (within : s₀.Admits k.toState parent) (made : k.createClosure template parent = .ok (c, k')) :
    s₀.Confines k'.toState := by
  obtain ⟨live, _, state⟩ := createClosure_spec made
  refine confines_quiet h action ?_ (by rw [state]; rfl)
  rw [state]
  refine h.encloses.addClosure h.consistent template live (within.imp id ?_)
  rintro ⟨p, rfl, inside⟩
  obtain ⟨x, hx⟩ := exists_closure (live p rfl)
  exact ⟨p, rfl, inside (contains_closure.mpr ⟨x, hx⟩)⟩

/-- A subscription that is made to or from the subtree leaves all that is new in the subtree. -/
theorem confines_subscribe (h : s₀.Confines k.toState) (action : k.Action order k')
    {source target : NodeId} {selector : Selector} {code : κ} {id : SubscriptionId}
    (within : k.toState.Inside s₀.nextClosure source ∨ k.toState.Inside s₀.nextClosure target)
    (made : k.subscribe source target selector code = .ok (id, k')) : s₀.Confines k'.toState := by
  obtain ⟨source_live, target_live, _, state, pending⟩ := subscribe_spec made
  have below := within.imp (· source_live) (· target_live)
  have encloses := h.encloses.addEdge h.consistent source_live target_live selector code below
  refine confines_action h action ?_ (fun a ha => (pending a).mpr (.inl ha)) fun a ha => ?_
  · rw [state]
    exact encloses.same ⟨rfl, rfl, rfl⟩
  · rcases (pending a).mp ha with old | ⟨rfl, _⟩
    · exact .inl old
    · exact .inr h.evolves.subscriptions_le

/-- Removing a closure of the subtree. -/
theorem confines_raze (h : s₀.Confines k.toState) {b : ClosureId}
    (inside : k.toState.Inside s₀.nextClosure (.closure b)) :
    s₀.Confines (k.raze order b).toState := by
  have state := toState_raze h.consistent.indexed h.consistent.forest.sound order b
  have action : k.Action order (k.raze order b) := by
    rw [raze_eq_perform]
    exact .command (.destroyClosure b)
  refine confines_quiet h action ?_ (by rw [state]; rfl)
  rw [state]
  refine h.encloses.shrink (h.consistent.forest.sound.cascades_below b) fun node below => ?_
  obtain ⟨x, hx⟩ := below.top_live
  exact (inside (contains_closure.mpr ⟨x, hx⟩)).trans below

/-- The destruction of a datum of the subtree leaves all that is new in the subtree. -/
theorem confines_razeDatum (h : s₀.Confines k.toState) {d : DatumId}
    (action : k.Action order (k.razeDatum order d))
    (below : k.toState.Below s₀.nextClosure (.datum d)) :
    s₀.Confines (k.razeDatum order d).toState := by
  have state := toState_razeDatum h.consistent.indexed h.consistent.forest.sound order d
  refine confines_quiet h action ?_ (by rw [state]; rfl)
  rw [state]
  refine h.encloses.shrink (k.toState.cascades_datum d) ?_
  rintro _ rfl
  exact below

/-- The removal of a subscription to or from the subtree leaves all that is new in the subtree. -/
theorem confines_unsubscribe (h : s₀.Confines k.toState) {id : SubscriptionId}
    (action : k.Action order (k.removeEdge id))
    (within : k.toState.Touches (k.toState.Below s₀.nextClosure) id ∨
      id ∉ k.edges.subscriptions) : s₀.Confines (k.removeEdge id).toState := by
  rcases within with touches | absent
  · have state := toState_removeEdge h.consistent.indexed id
    refine confines_quiet h action ?_ (by rw [state]; rfl)
    rw [state]
    refine h.encloses.unlink ?_
    rintro _ rfl
    exact touches
  · have still : k.removeEdge id = k := by
      simp [removeEdge, Std.ExtTreeMap.getElem?_eq_none absent]
    rw [still]
    exact h

/-- Giving parameters to a closure of the subtree. -/
theorem confines_setParams (h : s₀.Confines k.toState) {b : ClosureId}
    (inside : k.toState.Inside s₀.nextClosure (.closure b)) (params : List (String × Value)) :
    s₀.Confines (k.setParams b params).toState := by
  have action : k.Action .ascending (k.setParams b params) := .params b params
  refine confines_quiet h action (h.encloses.updateClosure (fun live => ?_) fun _ => rfl) ?_
  · exact inside (contains_closure.mpr (exists_closure live))
  · simp only [setParams, toState_mapState, updateClosure_eq]

/-- A mutation of a node of the subtree. -/
theorem confines_mutation (h : s₀.Confines k.toState) {cmd : Command κ} {node : NodeId}
    (on : cmd.mutates? = some node) (inside : k.toState.Inside s₀.nextClosure node) :
    s₀.Confines (cmd.perform order k).2.toState := by
  have action : k.Action order (cmd.perform order k).2 := .command cmd
  have effect : k.Effect (cmd.change? (cmd.perform order k).1) (cmd.perform order k).2 :=
    perform_effect h.consistent cmd
  have mutation : k.Mutation cmd node (cmd.perform order k) := perform_mutation h.consistent on
  generalize cmd.perform order k = result at *
  cases mutation with
  | refused fault cannot => exact h
  | idle reply was asked there quiet => exact h
  | @effective reply k' change before after was asked fresh changes answers mutates =>
    rw [changes] at effect
    cases effect with
    | changed e _ _ _ live links _ _ _ _ pending _ =>
      have below := inside live
      have edges : k'.edges = k.edges := links.edges
      refine confines_action h action ?_ (fun a ha => (pending a).mpr (.inl ha)) fun a ha => ?_
      · refine h.encloses.rewrite links.tree edges (fun d outside => ?_) fun b outside => ?_
        · exact mutates.other_datums d fun same => outside (same ▸ below)
        · refine mutates.other_closures b (fun same => outside (same ▸ below)) fun owns => ?_
          exact outside (h.consistent.forest.owner_below below owns)
      · exact ((pending a).mp ha).imp id (h.new_of_hears below)

/-- Host code that keeps to the subtree leaves all new things there. -/
theorem confines_command (h : s₀.Confines k.toState) {cmd : Command κ}
    (within : cmd.Within s₀.nextClosure k.toState) :
    s₀.Confines (cmd.perform order k).2.toState := by
  have action : k.Action order (cmd.perform order k).2 := .command cmd
  cases attempt : cmd.attempt order k with
  | error fault =>
    rw [Command.perform_of_error attempt]
    exact h
  | ok done =>
    obtain ⟨reply, k'⟩ := done
    have performed := Command.perform_of_ok attempt
    cases cmd with
    | set _ _ _ | setItems _ _ | setItem _ _ _ | pushItem _ _ | removeItem _ _
    | setAvailability _ _ | setError _ _ => exact confines_mutation h rfl within
    | createDatum typeName fields owner | createCollection typeName items owner =>
      rw [performed] at action ⊢
      exact confines_createNode h action within attempt
    | createClosure template parent =>
      rw [performed] at action ⊢
      exact confines_createClosure h action (.inr within) attempt
    | subscribe source target selector code =>
      rw [performed] at action ⊢
      exact confines_subscribe h action within attempt
    | unsubscribe id => exact confines_unsubscribe h action within
    | destroyDatum d =>
      rw [performed] at action ⊢
      obtain ⟨x, hx, attempt⟩ := bind_eq_ok.mp attempt
      cases attempt
      exact confines_razeDatum h action (within (contains_datum.mpr ⟨x, requireDatum_ok.mp hx⟩))
    | destroyClosure b =>
      rw [← raze_eq_perform]
      exact confines_raze h within
    | putEvent event => exact confines_idle h action ⟨rfl, rfl, rfl⟩ rfl
    | register name template => exact confines_idle h action ⟨rfl, rfl, rfl⟩ rfl

end Kernel

/-- Building in the subtree of the closure that is made next: host code is called where all is
enclosed, children are made in the subtree or are the closure itself, and what is built is new. -/
def Discipline.confinement (s₀ : State κ) : Discipline κ where
  holds k := s₀.Confines k.toState
  asks
    | .instantiate _ parent _, k => s₀.Admits k.toState parent
    | .callSite p _, k => s₀.Admits k.toState (some p)
    | .run _, _ | .drain, _ | .drainEvents, _ => False
  answers
    | .instantiate .., _, r, _ => ∀ c, r = .ok c → s₀.nextClosure.index ≤ c.index
    | _, _, _, _ => True

namespace Kernel

open State Activity

variable {s₀ : State κ} {k k' : Kernel κ} {order : EdgeOrder κ}

/-- Host code that is called keeps all that is new in the subtree. -/
theorem obeys_reactTo (h : s₀.Confines k.toState) (code : Option κ) (occasion : Occasion) :
    (reactTo code occasion k).Obeys (.confinement s₀) fun _ k' => s₀.Confines k'.toState := by
  cases code with
  | none => exact h
  | some host => exact ⟨h, fun _ _ holds => holds⟩

/-- Children that are made for a closure of the subtree are built in the subtree. -/
theorem obeys_makeChildren (h : s₀.Confines k.toState) {c : ClosureId}
    (new : s₀.nextClosure.index ≤ c.index) (indices : List Nat) :
    (k.makeChildren c indices).Obeys (.confinement s₀) fun _ k' => s₀.Confines k'.toState := by
  induction indices generalizing k with
  | nil => exact h
  | cons index rest ih =>
    refine ⟨h, .inr ⟨c, rfl, h.inside new⟩, fun r k' holds _ => ?_⟩
    cases r with
    | ok child => exact ih holds
    | error fault => exact holds

/-- A closure of the subtree is wired in the subtree. -/
theorem obeys_wire (h : s₀.Confines k.toState) {c : ClosureId}
    (new : s₀.nextClosure.index ≤ c.index) (t : Template κ) :
    (k.wire c t).Obeys (.confinement s₀) fun _ k' => s₀.Confines k'.toState := by
  refine .bind ((obeys_reactTo h t.internal (.instantiated c)).mono fun r k' holds => ?_)
  cases r with
  | ok u => exact obeys_makeChildren holds new t.topChildren
  | error fault => exact holds

/-- The end of an instantiation leaves all that is new in the subtree. -/
theorem confines_conclude (h : s₀.Confines k.toState) {c : ClosureId}
    (new : s₀.nextClosure.index ≤ c.index) (template : String) (outcome : Except Fault Unit) :
    s₀.Confines (k.concludeInstantiation order c template outcome).2.toState := by
  cases outcome with
  | error fault =>
    exact confines_raze (k := k.log (.instantiateFailed c template fault)) h (h.inside new)
  | ok u =>
    simp only [concludeInstantiation]
    split <;> exact h

/-- An instantiation in the subtree, or the one that begins it, builds in the subtree. -/
theorem obeys_instantiate (h : s₀.Confines k.toState) {parent : Option ClosureId}
    (admits : s₀.Admits k.toState parent) (template : String) (params : List (String × Value)) :
    (k.instantiate order template parent params).Obeys (.confinement s₀) fun r k' =>
      s₀.Confines k'.toState ∧ ∀ c, r = .ok c → s₀.nextClosure.index ≤ c.index := by
  have refused (fault : Fault) : s₀.Confines k.toState ∧
      ∀ c, (.error fault : Except Fault ClosureId) = .ok c → s₀.nextClosure.index ≤ c.index :=
    ⟨h, fun c is => by cases is⟩
  rw [instantiate_eq]
  cases ht : k.templates.require template with
  | error fault => exact refused fault
  | ok t =>
    cases hc : k.createClosure template parent with
    | error fault => exact refused fault
    | ok made =>
      obtain ⟨c, k₁⟩ := made
      have action : k.Action order k₁ :=
        createClosure_eq_perform order hc ▸ .command (.createClosure template parent)
      have created := confines_createClosure h action admits hc
      obtain ⟨_, rfl, _⟩ := createClosure_spec hc
      have new : s₀.nextClosure.index ≤ k.toState.nextClosure.index := h.evolves.closures_le
      have given := confines_setParams created (created.inside new) params
      refine .bind ((obeys_wire given new t).mono fun outcome k' holds => ?_)
      refine ⟨confines_conclude holds new template outcome, fun c is => ?_⟩
      exact eq_of_conclude is ▸ new

/-- A call site of a closure in the subtree builds in the subtree. -/
theorem obeys_callSite (h : s₀.Confines k.toState) {p : ClosureId}
    (admits : s₀.Admits k.toState (some p)) (index : Nat) :
    (k.callSite order p index).Obeys (.confinement s₀) fun _ k' => s₀.Confines k'.toState := by
  unfold callSite
  cases hs : k.findCallSite p index with
  | error fault => exact h
  | ok site =>
    refine ⟨h, admits, fun r k' holds answer => ?_⟩
    cases r with
    | error fault => exact holds
    | ok child =>
      have new := answer child rfl
      refine .bind ((obeys_reactTo holds site.binding (.attached p child)).mono
        fun outcome k'' holds' => ?_)
      cases outcome with
      | ok u => exact holds'
      | error fault => exact confines_raze holds' (holds'.inside new)

end Kernel

/-- Host code that keeps to the subtree, and the calls that build there, keep all enclosed. -/
theorem Discipline.confinement_kept (s₀ : State κ) :
    (Discipline.confinement s₀).Kept (.within s₀.nextClosure) where
  command _ _ _ holds within := Kernel.confines_command holds within
  probe p k holds _ := by
    change s₀.Confines (p.perform k).2.toState
    rw [Kernel.toState_probe]
    exact holds
  request c k _ within := by
    cases c with
    | instantiate template parent params => exact .inr within
    | callSite p index => exact .inr ⟨p, rfl, within⟩
    | run template => exact within
    | drain => exact within
    | drainEvents => exact within
  call order c k holds asks := by
    cases c with
    | instantiate template parent params =>
      exact Kernel.obeys_instantiate holds asks template params
    | callSite p index =>
      exact (Kernel.obeys_callSite holds asks index).mono fun _ _ holds' => ⟨holds', trivial⟩
    | run template => exact asks.elim
    | drain => exact asks.elim
    | drainEvents => exact asks.elim

end ReactiveKernel
