import ReactiveKernel.Proofs.Transaction

/-!
# Commands and settings

No command looks at the settings. A command that is given to a kernel with other settings gets the
same answer, and the kernel that it leaves behind is the same but for the settings, if the order of
walking does not depend on them either.
-/

namespace ReactiveKernel

variable {κ α β : Type}

/-- The state with changed settings. -/
def State.resettle (f : Settings → Settings) (s : State κ) : State κ :=
  { s with settings := f s.settings }

/-- The order of walking is the same with changed settings. -/
def EdgeOrder.Overlooks (f : Settings → Settings) (order : EdgeOrder κ) : Prop :=
  ∀ s site ids, order.arrange (s.resettle f) site ids = order.arrange s site ids

/-- Every order of walking overlooks settings that stay as they are. -/
theorem EdgeOrder.overlooks_id (order : EdgeOrder κ) : order.Overlooks id := fun _ _ _ => rfl

namespace State

variable {s t : State κ} {f : Settings → Settings}

@[simp] theorem datums_resettle : (s.resettle f).datums = s.datums := rfl

@[simp] theorem closures_resettle : (s.resettle f).closures = s.closures := rfl

@[simp] theorem edges_resettle : (s.resettle f).edges = s.edges := rfl

theorem updateClosure_resettle (same : t = s.resettle f) (id : ClosureId)
    (g : Closure → Closure) : t.updateClosure id g = (s.updateClosure id g).resettle f := by
  subst same
  simp only [updateClosure, resettle]
  split <;> rfl

theorem updateDatum_resettle (same : t = s.resettle f) (id : DatumId)
    (g : Datum → Datum) : t.updateDatum id g = (s.updateDatum id g).resettle f := by
  subst same
  simp only [updateDatum, resettle]
  split <;> rfl

theorem linkEdge_resettle (same : t = s.resettle f) (id : SubscriptionId)
    (source target : NodeId) :
    t.linkEdge id source target = (s.linkEdge id source target).resettle f := by
  cases source <;> cases target <;>
    simp only [linkEdge, updateDatum_resettle same, updateClosure_resettle same,
      updateClosure_resettle rfl]

theorem unlinkEdge_resettle (same : t = s.resettle f) (id : SubscriptionId)
    (source target : NodeId) :
    t.unlinkEdge id source target = (s.unlinkEdge id source target).resettle f := by
  cases source <;> cases target <;>
    simp only [unlinkEdge, updateDatum_resettle same, updateClosure_resettle same,
      updateClosure_resettle rfl]

end State

namespace Kernel

/-- The kernel with changed settings. -/
def resettle (f : Settings → Settings) (k : Kernel κ) : Kernel κ := k.mapState (State.resettle f)

/-- The result of a request, with changed settings in the kernel that is left behind. -/
def resettleResult (f : Settings → Settings) (x : Except Fault (α × Kernel κ)) :
    Except Fault (α × Kernel κ) :=
  x.map fun r => (r.1, r.2.resettle f)

variable {f : Settings → Settings} {order : EdgeOrder κ} {k m n n' : Kernel κ}

/-- A request begins with a look at what does not depend on the settings. -/
theorem bind_resettle (x : Except Fault β) {g g' : β → Except Fault (α × Kernel κ)}
    (rest : ∀ b, g' b = resettleResult f (g b)) : (x >>= g') = resettleResult f (x >>= g) := by
  cases x with
  | error fault => rfl
  | ok b => exact rest b

@[simp] theorem toState_resettle :
    (k.resettle f).toState = k.toState.resettle f := rfl

/-- A change of the state that does not depend on the settings. -/
theorem mapState_resettle {g : State κ → State κ}
    (blind : g (k.toState.resettle f) = (g k.toState).resettle f) :
    (k.resettle f).mapState g = (k.mapState g).resettle f :=
  congrArg (fun s => { k with toState := s }) blind

/-- A decision that does not depend on the settings. -/
theorem ite_resettle {b b' : Bool} (decided : b' = b) (same : m = k.resettle f)
    (same' : n = n'.resettle f) :
    (if b' then m else n) = (if b then k else n').resettle f := by
  subst decided same same'
  cases b' <;> rfl

/-- Steps that do not depend on the settings, one after another. -/
theorem foldl_resettle {g : Kernel κ → β → Kernel κ} (same : m = k.resettle f)
    (each : ∀ k x, g (k.resettle f) x = (g k x).resettle f) (xs : List β) :
    xs.foldl g m = (xs.foldl g k).resettle f := by
  subst same
  exact List.foldl_hom (fun m : Kernel κ => m.resettle f) each

/-! New nodes and subscriptions. -/

theorem createNode_resettle (typeName : String) (content : Content) (owner : Option ClosureId) :
    (k.resettle f).createNode typeName content owner =
      resettleResult f (k.createNode typeName content owner) := by
  refine bind_resettle (k.requireHolder owner) fun _ => ?_
  cases owner with
  | none => rfl
  | some o =>
    dsimp only
    rw [mapState_resettle]
    · rfl
    · exact State.updateClosure_resettle (by rfl) o _

theorem createClosure_resettle (template : String) (parent : Option ClosureId) :
    (k.resettle f).createClosure template parent =
      resettleResult f (k.createClosure template parent) := by
  refine bind_resettle (k.requireHolder parent) fun _ => ?_
  cases parent with
  | none => rfl
  | some p =>
    dsimp only
    rw [mapState_resettle]
    · rfl
    · exact State.updateClosure_resettle (by rfl) p _

theorem setParams_resettle (id : ClosureId) (params : List (String × Value)) :
    (k.resettle f).setParams id params = (k.setParams id params).resettle f :=
  mapState_resettle (State.updateClosure_resettle (by rfl) id _)

theorem catchUp_resettle (same : m = k.resettle f) (id : SubscriptionId) (source : NodeId)
    (changedAt : Nat) : m.catchUp id source changedAt =
      (k.catchUp id source changedAt).resettle f := by
  subst same
  exact ite_resettle (by rfl) (by rfl) (by rfl)

theorem subscribe_resettle (source target : NodeId) (selector : Selector) (code : κ) :
    (k.resettle f).subscribe source target selector code =
      resettleResult f (k.subscribe source target selector code) := by
  refine bind_resettle (k.setGenerationOf source) fun changedAt => ?_
  refine bind_resettle (k.requireNode target) fun _ => ?_
  dsimp only
  rw [mapState_resettle]
  · exact congrArg (fun m => Except.ok (_, m)) (catchUp_resettle (by rfl) _ source changedAt)
  · exact State.linkEdge_resettle (by rfl) _ source target

theorem removeEdge_resettle (id : SubscriptionId) :
    (k.resettle f).removeEdge id = (k.removeEdge id).resettle f := by
  simp only [removeEdge, toState_resettle, State.edges_resettle]
  cases k.edges.subscriptions[id]? with
  | none => rfl
  | some s =>
    dsimp only
    rw [mapState_resettle]
    · rfl
    · exact State.unlinkEdge_resettle (by rfl) id s.source s.target

theorem removeEdges_resettle (same : m = k.resettle f) (ids : List SubscriptionId) :
    m.removeEdges ids = (k.removeEdges ids).resettle f :=
  foldl_resettle same (fun _ => removeEdge_resettle) ids

/-! Delivery of changes. -/

theorem walk_resettle (blind : order.Overlooks f) (site : EdgeSite) (ids : SubscriptionSet) :
    (k.resettle f).walk order site ids = k.walk order site ids :=
  blind k.toState site ids.toList

theorem notifyOne_resettle (source : NodeId) (change : Change) (id : SubscriptionId) :
    notifyOne source change (k.resettle f) id =
      (notifyOne source change k id).resettle f := by
  simp only [notifyOne, toState_resettle, State.edges_resettle]
  cases k.edges.subscriptions[id]? with
  | none => rfl
  | some s => exact ite_resettle (by rfl) (by rfl) (by rfl)

theorem notify_resettle (blind : order.Overlooks f) (same : m = k.resettle f)
    (source : NodeId) (change : Change) :
    m.notify order source change = (k.notify order source change).resettle f := by
  subst same
  unfold notify
  rw [walk_resettle blind]
  exact foldl_resettle (by rfl) (fun _ => notifyOne_resettle source change) _

theorem carry_resettle (blind : order.Overlooks f) (owner : ClosureId) :
    (k.resettle f).carry order owner = (k.carry order owner).resettle f := by
  simp only [carry, toState_resettle, State.closures_resettle]
  cases k.closures[owner]? with
  | none => rfl
  | some c => exact notify_resettle blind (by rfl) (.closure owner) .carried

theorem datumChanged_resettle (blind : order.Overlooks f) (same : m = k.resettle f)
    (id : DatumId) (change : Change) :
    m.datumChanged order id change = (k.datumChanged order id change).resettle f := by
  simp only [datumChanged, notify_resettle blind same, toState_resettle,
    State.datums_resettle]
  cases ((k.notify order (.datum id) change).datums[id]?).bind Datum.owner with
  | none => rfl
  | some owner => exact carry_resettle blind owner

/-! Changes. -/

theorem setDatumField_resettle (blind : order.Overlooks f) (id : DatumId) (field : String)
    (value : Value) : (k.resettle f).setDatumField order id field value =
      resettleResult f (k.setDatumField order id field value) := by
  refine bind_resettle (k.requireDatum id) fun d => ?_
  refine bind_resettle (d.requireFields id) fun fields => ?_
  dsimp only
  cases ((fields[field]?).getD .null).same value with
  | true => rfl
  | false =>
    exact congrArg (fun m => Except.ok (true, m))
      (datumChanged_resettle blind (by rfl) id (.field field))

theorem setClosureField_resettle (blind : order.Overlooks f) (id : ClosureId) (field : String)
    (value : Value) : (k.resettle f).setClosureField order id field value =
      resettleResult f (k.setClosureField order id field value) := by
  refine bind_resettle (k.requireClosure id) fun c => ?_
  dsimp only
  cases ((c.fields[field]?).getD .null).same value with
  | true => rfl
  | false =>
    exact congrArg (fun m => Except.ok (true, m))
      (notify_resettle blind (by rfl) (.closure id) (.field field))

theorem replaceItems_resettle (blind : order.Overlooks f) (id : DatumId) (d : Datum)
    (items : List Value) : (k.resettle f).replaceItems order id d items =
      (k.replaceItems order id d items).resettle f :=
  datumChanged_resettle blind (by rfl) id .items

theorem updateStatus_resettle (blind : order.Overlooks f) (id : DatumId) (d : Datum)
    (status : Status) : Except.ok ((k.resettle f).updateStatus order id d status) =
      resettleResult f (.ok (k.updateStatus order id d status)) := by
  unfold updateStatus
  cases d.status.same status with
  | true => rfl
  | false =>
    exact congrArg (fun m => Except.ok (true, m))
      (datumChanged_resettle blind (by rfl) id .availability)

/-! Removals. -/

theorem razeDatum_resettle (blind : order.Overlooks f) (id : DatumId) :
    (k.resettle f).razeDatum order id = (k.razeDatum order id).resettle f := by
  simp only [razeDatum, walk_resettle blind, toState_resettle, State.datums_resettle,
    State.edges_resettle, removeEdges_resettle (k := k) rfl]
  cases k.datums[id]? with
  | none => rfl
  | some d =>
    dsimp only
    rw [mapState_resettle]
    · rfl
    · cases d.owner with
      | none => rfl
      | some owner =>
        exact congrArg (fun s : State κ => { s with datums := s.datums.erase id })
          (State.updateClosure_resettle (by rfl) owner _)

theorem dropClosure_resettle (same : m = k.resettle f) (id : ClosureId)
    (parent : Option ClosureId) :
    m.dropClosure id parent = (k.dropClosure id parent).resettle f := by
  subst same
  unfold dropClosure
  dsimp only
  rw [mapState_resettle]
  · rfl
  · cases parent with
    | none => rfl
    | some p =>
      exact congrArg (fun s : State κ => { s with closures := s.closures.erase id })
        (State.updateClosure_resettle (by rfl) p _)

theorem razeClosure_resettle (blind : order.Overlooks f) (fuel : Nat) (id : ClosureId) :
    razeClosure order fuel (k.resettle f) id =
      (razeClosure order fuel k id).resettle f := by
  induction fuel generalizing k id with
  | zero => rfl
  | succ fuel ih =>
    simp only [razeClosure, walk_resettle blind, toState_resettle, State.closures_resettle]
    cases k.closures[id]? with
    | none => rfl
    | some c =>
      refine dropClosure_resettle (foldl_resettle (foldl_resettle ?_
        (fun _ => razeDatum_resettle blind) c.owned) (fun _ => ih) c.children) id c.parent
      exact removeEdges_resettle (removeEdges_resettle (by rfl) _) _

theorem raze_resettle (blind : order.Overlooks f) (same : m = k.resettle f)
    (id : ClosureId) : m.raze order id = (k.raze order id).resettle f := by
  subst same
  exact razeClosure_resettle blind _ id

end Kernel

open Kernel

variable {f : Settings → Settings} {order : EdgeOrder κ} {k : Kernel κ}

theorem Command.attempt_resettle (blind : order.Overlooks f) (c : Command κ) :
    c.attempt order (k.resettle f) = resettleResult f (c.attempt order k) := by
  cases c with
  | createDatum typeName fields owner => exact createNode_resettle _ _ owner
  | createCollection typeName items owner => exact createNode_resettle _ _ owner
  | createClosure template parent => exact createClosure_resettle template parent
  | subscribe source target selector code =>
    exact subscribe_resettle source target selector code
  | unsubscribe id => exact congrArg (fun m => Except.ok (_, m)) (removeEdge_resettle id)
  | set node field value =>
    cases node with
    | datum id => exact setDatumField_resettle blind id field value
    | closure id => exact setClosureField_resettle blind id field value
  | setItems id items =>
    refine bind_resettle (k.requireDatum id) fun d => ?_
    refine bind_resettle (d.requireItems id) fun _ => ?_
    exact congrArg (fun m => Except.ok ((), m)) (replaceItems_resettle blind id d items)
  | setItem id index value =>
    refine bind_resettle (k.requireDatum id) fun d => ?_
    refine bind_resettle (d.requireItems id) fun items => ?_
    cases items[index]? with
    | none => rfl
    | some old =>
      dsimp only
      cases old.same value with
      | true => rfl
      | false =>
        exact congrArg (fun m => Except.ok (true, m)) (replaceItems_resettle blind id d _)
  | pushItem id value =>
    refine bind_resettle (k.requireDatum id) fun d => ?_
    refine bind_resettle (d.requireItems id) fun items => ?_
    exact congrArg (fun m => Except.ok ((), m)) (replaceItems_resettle blind id d _)
  | removeItem id index =>
    refine bind_resettle (k.requireDatum id) fun d => ?_
    refine bind_resettle (d.requireItems id) fun items => ?_
    cases items[index]? with
    | none => rfl
    | some removed =>
      exact congrArg (fun m => Except.ok (removed, m)) (replaceItems_resettle blind id d _)
  | setAvailability id a =>
    exact bind_resettle (k.requireDatum id) fun d => updateStatus_resettle blind id d _
  | setError id payload =>
    exact bind_resettle (k.requireDatum id) fun d => updateStatus_resettle blind id d _
  | destroyDatum id =>
    refine bind_resettle (k.requireDatum id) fun _ => ?_
    exact congrArg (fun m => Except.ok ((), m)) (razeDatum_resettle blind id)
  | destroyClosure id =>
    refine bind_resettle (k.requireClosure id) fun _ => ?_
    exact congrArg (fun m => Except.ok ((), m)) (raze_resettle blind (by rfl) id)
  | putEvent event => rfl
  | register name template => rfl

/-- A command gets the same answer whatever the settings are, and leaves them as they are. -/
theorem Command.perform_resettle (blind : order.Overlooks f) (c : Command κ) :
    c.perform order (k.resettle f) =
      ((c.perform order k).1, (c.perform order k).2.resettle f) := by
  rw [perform_eq, perform_eq, attempt_resettle blind]
  cases c.attempt order k <;> rfl

/-- The instruments show the same whatever the settings are. -/
theorem Probe.perform_resettle (p : Probe) :
    p.perform (k.resettle f) = ((p.perform k).1, (p.perform k).2.resettle f) := by
  cases p <;> rfl

end ReactiveKernel
