import ReactiveKernel.Execution.Instantiation
import ReactiveKernel.Kernel.Routine
import ReactiveKernel.Proofs.State.Tables

/-!
# Routines as transactions

A routine that fails could leave a kernel with half of its work done. Those of the requests do not:
each of them does what it says in one piece, or leaves the kernel as it was. A statement that could
fail late looks up a node that an earlier statement has found, and none between them removes it.
-/

namespace ReactiveKernel

variable {κ α β : Type}

/-! Looking something up. -/

namespace Kernel

open State

/-- A step of a request that was done was done. -/
theorem bind_eq_ok {x : Except Fault α} {f : α → Except Fault β} {r : β} :
    x >>= f = .ok r ↔ ∃ a, x = .ok a ∧ f a = .ok r := by
  cases x <;> simp [bind, Except.bind]

/-- A datum is found where its record is. -/
theorem requireDatum_ok {s : State κ} {d : DatumId} {x : Datum} :
    s.requireDatum d = .ok x ↔ s.datums[d]? = some x := by
  unfold requireDatum
  cases s.datums[d]? <;> simp

/-- A closure is found where its record is. -/
theorem requireClosure_ok {s : State κ} {c : ClosureId} {x : Closure} :
    s.requireClosure c = .ok x ↔ s.closures[c]? = some x := by
  unfold requireClosure
  cases s.closures[c]? <;> simp

/-- The fields of a datum are found if it is a record. -/
theorem requireFields_ok {x : Datum} {d : DatumId} {fields : FieldMap} :
    x.requireFields d = .ok fields ↔ x.content = .record fields := by
  unfold Datum.requireFields
  cases x.content <;> simp

/-- The items of a datum are found if it is a collection. -/
theorem requireItems_ok {x : Datum} {d : DatumId} {items : List Value} :
    x.requireItems d = .ok items ↔ x.content = .collection items := by
  unfold Datum.requireItems
  cases x.content <;> simp

end Kernel

namespace State

variable {s : State κ}

/-- The record of a live datum is replaced. -/
theorem updateDatum_of_live {id : DatumId} {d : Datum} (live : s.datums[id]? = some d)
    (f : Datum → Datum) : s.updateDatum id f = s.putDatum id (f d) := by
  unfold updateDatum
  rw [live]

/-- The record of a live closure is replaced. -/
theorem updateClosure_of_live {id : ClosureId} {c : Closure} (live : s.closures[id]? = some c)
    (f : Closure → Closure) : s.updateClosure id f = s.putClosure id (f c) := by
  unfold updateClosure
  rw [live]

/-- Of two changes of a live datum one after the other, the second starts from the first. -/
theorem updateDatum_updateDatum {id : DatumId} {d : Datum} (live : s.datums[id]? = some d)
    (f g : Datum → Datum) : (s.updateDatum id f).updateDatum id g = s.putDatum id (g (f d)) := by
  have first : (s.updateDatum id f).datums[id]? = some (f d) := by
    simp [updateDatum_of_live live, putDatum]
  rw [updateDatum_of_live first, updateDatum_of_live live]
  refine ext_tables rfl rfl (fun a => ?_) (fun _ => rfl) rfl rfl rfl rfl
  simp only [putDatum, Std.ExtTreeMap.getElem?_insert]
  split <;> rfl

/-- Of two changes of a live closure one after the other, the second starts from the first. -/
theorem updateClosure_updateClosure {id : ClosureId} {c : Closure}
    (live : s.closures[id]? = some c) (f g : Closure → Closure) :
    (s.updateClosure id f).updateClosure id g = s.putClosure id (g (f c)) := by
  have first : (s.updateClosure id f).closures[id]? = some (f c) := by
    simp [updateClosure_of_live live, putClosure]
  rw [updateClosure_of_live first, updateClosure_of_live live]
  refine ext_tables rfl rfl (fun _ => rfl) (fun a => ?_) rfl rfl rfl rfl
  simp only [putClosure, Std.ExtTreeMap.getElem?_insert]
  split <;> rfl

end State

/-- What comes of a transaction: the kernel that it made, or else the one before it. -/
def Kernel.settle (k : Kernel κ) : Except Fault (α × Kernel κ) → Except Fault α × Kernel κ
  | .ok (a, m) => (.ok a, m)
  | .error fault => (.error fault, k)

namespace Kernel

variable {k : Kernel κ}

@[simp] theorem settle_ok (a : α) (m : Kernel κ) : k.settle (.ok (a, m)) = (.ok a, m) := rfl

/-- Changes of the state that come to the same at a kernel lead to the same kernel. -/
theorem mapState_congr {f g : State κ → State κ} (same : f k.toState = g k.toState) :
    k.mapState f = k.mapState g := by
  rw [mapState, mapState, same]

/-- Two changes of the state are one. -/
theorem mapState_mapState (f g : State κ → State κ) :
    (k.mapState f).mapState g = k.mapState fun s => g (f s) := rfl

end Kernel

namespace Routine

variable {k : Kernel κ} {order : EdgeOrder κ}

/-! How statements run. -/

@[simp] theorem exec_pure (a : α) : (pure a : Routine κ α).exec k = (.ok a, k) := rfl

@[simp] theorem exec_throw (fault : Fault) :
    (throw fault : Routine κ α).exec k = (.error fault, k) := rfl

@[simp] theorem exec_get : (get : Routine κ (Kernel κ)).exec k = (.ok k, k) := rfl

@[simp] theorem exec_modify (f : Kernel κ → Kernel κ) :
    (modify f : Routine κ Unit).exec k = (.ok (), f k) := rfl

@[simp] theorem exec_change (f : State κ → State κ) :
    (change f).exec k = (.ok (), k.mapState f) := rfl

@[simp] theorem exec_announce (e : TraceEvent) : (announce e).exec k = (.ok (), k.emit e) := rfl

@[simp] theorem exec_report (e : LogEvent) : (report e).exec k = (.ok (), k.log e) := rfl

/-- The second routine runs from the kernel that the first one leaves, unless that one fails. -/
@[simp] theorem exec_bind (r : Routine κ α) (f : α → Routine κ β) :
    (r >>= f).exec k = match r.exec k with
      | (.ok a, m) => (f a).exec m
      | (.error fault, m) => (.error fault, m) := by
  unfold exec ExceptT.run StateT.run
  simp only [bind, ExceptT.bind, ExceptT.mk, StateT.bind, ExceptT.bindCont]
  cases r k with
  | mk result m => cases result <;> rfl

@[simp] theorem exec_map (f : α → β) (r : Routine κ α) :
    (f <$> r).exec k = ((r.exec k).1.map f, (r.exec k).2) := by
  rw [← bind_pure_comp, exec_bind]
  rcases r.exec k with ⟨_ | _, m⟩ <;> rfl

/-- Looking something up leaves the kernel alone. -/
@[simp] theorem exec_examine (f : State κ → Except Fault α) :
    (examine f).exec k = (f k.toState, k) := by
  unfold examine
  rw [exec_bind]
  cases h : f k.toState with
  | error fault => simp [h]
  | ok a => simp [h]

/-- Something is looked up, and then a transaction goes on with it. -/
theorem exec_examine_bind (f : State κ → Except Fault α) {r : α → Routine κ β}
    {x : α → Except Fault (β × Kernel κ)}
    (rest : ∀ a, f k.toState = .ok a → (r a).exec k = k.settle (x a)) :
    (examine f >>= r).exec k = k.settle (f k.toState >>= x) := by
  rw [exec_bind, exec_examine]
  cases h : f k.toState with
  | error fault => rfl
  | ok a => exact rest a h

/-- Something that is there is looked up. -/
theorem exec_examine_of_ok {f : State κ → Except Fault α} {a : α} (found : f k.toState = .ok a)
    (r : α → Routine κ β) : (examine f >>= r).exec k = (r a).exec k := by
  rw [exec_bind, exec_examine, found]

/-- A list is gone through by statements that never fail. -/
theorem exec_forM {γ : Type} {f : γ → Routine κ Unit} {g : Kernel κ → γ → Kernel κ}
    (each : ∀ k x, (f x).exec k = (.ok (), g k x)) (xs : List γ) (k : Kernel κ) :
    (xs.forM f).exec k = (.ok (), xs.foldl g k) := by
  induction xs generalizing k with
  | nil => rfl
  | cons x xs ih =>
    have split : (x :: xs).forM f = f x >>= fun _ => xs.forM f := rfl
    rw [split, exec_bind, each]
    exact ih (g k x)

/-! New nodes. -/

/-- A datum is made in one piece. -/
theorem exec_createNode (typeName : String) (content : Content) (owner : Option ClosureId) :
    (createNode typeName content owner).exec k =
      k.settle (k.createNode typeName content owner) := by
  refine exec_examine_bind _ fun u _ => ?_
  cases owner <;> rfl

/-- A closure is made in one piece. -/
theorem exec_createClosure (template : String) (parent : Option ClosureId) :
    (createClosure template parent).exec k = k.settle (k.createClosure template parent) := by
  refine exec_examine_bind _ fun u _ => ?_
  cases parent <;> rfl

/-- A closure that was made is live. -/
theorem live_of_createClosure {m : Kernel κ} {template : String} {parent : Option ClosureId}
    {id : ClosureId} (made : k.createClosure template parent = .ok (id, m)) :
    ∃ c, m.closures[id]? = some c := by
  obtain ⟨u, _, made⟩ := Kernel.bind_eq_ok.mp made
  cases made
  exact ⟨_, Std.ExtTreeMap.getElem?_insert_self⟩

/-- A closure is made and gets its parameters in one piece. -/
theorem exec_openInstance (template : String) (parent : Option ClosureId)
    (params : List (String × Value)) : (openInstance template parent params).exec k =
      k.settle ((k.createClosure template parent).map fun made =>
        (made.1, made.2.setParams made.1 params)) := by
  unfold openInstance
  rw [exec_bind, exec_createClosure]
  cases made : k.createClosure template parent with
  | error fault => rfl
  | ok result =>
    obtain ⟨id, m⟩ := result
    obtain ⟨c, live⟩ := live_of_createClosure made
    have found : m.requireClosure id = .ok c := Kernel.requireClosure_ok.mpr live
    dsimp only [Kernel.settle]
    rw [exec_examine_of_ok found]
    simp [Kernel.setParams, Except.map]

/-! Subscriptions. -/

/-- What has a generation is live. -/
theorem contains_of_setGenerationOf {s : State κ} {node : NodeId} {g : Nat}
    (h : s.setGenerationOf node = .ok g) : s.contains node = true := by
  cases node with
  | datum d =>
    obtain ⟨x, found, _⟩ := Kernel.bind_eq_ok.mp h
    rw [State.contains, Std.ExtTreeMap.contains_eq_isSome_getElem?,
      Kernel.requireDatum_ok.mp found, Option.isSome_some]
  | closure c =>
    obtain ⟨x, found, _⟩ := Kernel.bind_eq_ok.mp h
    rw [State.contains, Std.ExtTreeMap.contains_eq_isSome_getElem?,
      Kernel.requireClosure_ok.mp found, Option.isSome_some]

/-- A node stays live when a subscription is entered into the set of its source. -/
theorem contains_linkSource (s : State κ) (id : SubscriptionId) (source node : NodeId) :
    (s.linkSource id source).contains node = s.contains node := by
  cases source <;> cases node <;>
    simp only [State.linkSource, State.contains, State.updateDatum_eq, State.updateClosure_eq,
      Std.ExtTreeMap.contains_eq_isSome_getElem?, State.getElem?_modify_eq_map, Option.isSome_map]

/-- A live source is found. -/
theorem exec_linkSource {source : NodeId} (live : k.toState.contains source = true)
    (id : SubscriptionId) :
    (linkSource id source).exec k = (.ok (), k.mapState (·.linkSource id source)) :=
  exec_examine_of_ok (if_pos live) _

/-- A live target is found. -/
theorem exec_linkTarget {target : NodeId} (live : k.toState.contains target = true)
    (id : SubscriptionId) : (linkTarget id target).exec k = (.ok (), match target with
      | .datum _ => k
      | .closure c => k.mapState (·.linkTarget id c)) := by
  cases target with
  | datum d => rfl
  | closure c => exact exec_examine_of_ok (if_pos live) _

/-- A subscription is made in one piece. -/
theorem exec_subscribe (source target : NodeId) (selector : Selector) (code : κ) :
    (subscribe source target selector code).exec k =
      k.settle (k.subscribe source target selector code) := by
  refine exec_examine_bind _ fun changedAt found => exec_examine_bind _ fun u required => ?_
  have source_live : k.toState.contains source = true := contains_of_setGenerationOf found
  have target_live : k.toState.contains target = true := by
    by_contra dead
    simp [State.requireNode, dead] at required
  simp only [exec_bind, exec_get, exec_change]
  rw [exec_linkSource (by cases source <;> exact source_live)]
  dsimp only
  rw [exec_linkTarget (by
    rw [Kernel.toState_mapState, contains_linkSource]
    cases target <;> exact target_live)]
  cases source <;> cases target <;> rfl

/-! Mutations. -/

/-- The record of a live datum is written and touched. -/
theorem mapState_touch {id : DatumId} {d : Datum} (live : k.datums[id]? = some d)
    (f : Datum → Datum) (generation : Nat) :
    (k.mapState (·.updateDatum id f)).mapState (·.updateDatum id (·.touch generation)) =
      k.mapState (·.putDatum id ((f d).touch generation)) := by
  rw [Kernel.mapState_mapState]
  exact Kernel.mapState_congr (State.updateDatum_updateDatum live f _)

/-- A field of a record is written in one piece. -/
theorem exec_setDatumField (id : DatumId) (field : String) (value : Value) :
    (setDatumField order id field value).exec k =
      k.settle (k.setDatumField order id field value) := by
  unfold setDatumField
  rw [exec_bind, exec_get]
  refine exec_examine_bind _ fun d found => exec_examine_bind _ fun fields _ => ?_
  have live := Kernel.requireDatum_ok.mp found
  dsimp only
  split
  · rfl
  · simp only [exec_bind, exec_change, exec_modify, exec_pure, mapState_touch live]
    rfl

/-- The record of a live closure is written and touched. -/
theorem mapState_touchClosure {id : ClosureId} {c : Closure} (live : k.closures[id]? = some c)
    (f : Closure → Closure) (generation : Nat) :
    (k.mapState (·.updateClosure id f)).mapState (·.updateClosure id (·.touch generation)) =
      k.mapState (·.putClosure id ((f c).touch generation)) := by
  rw [Kernel.mapState_mapState]
  exact Kernel.mapState_congr (State.updateClosure_updateClosure live f _)

/-- A field of a closure is written in one piece. -/
theorem exec_setClosureField (id : ClosureId) (field : String) (value : Value) :
    (setClosureField order id field value).exec k =
      k.settle (k.setClosureField order id field value) := by
  unfold setClosureField
  rw [exec_bind, exec_get]
  refine exec_examine_bind _ fun c found => ?_
  have live := Kernel.requireClosure_ok.mp found
  dsimp only
  split
  · rfl
  · simp only [exec_bind, exec_change, exec_modify, exec_pure, mapState_touchClosure live]
    rfl

/-- The items of a live collection are written. -/
theorem exec_writeItems {id : DatumId} {d : Datum} (live : k.datums[id]? = some d)
    (items : List Value) :
    (writeItems order id items k.generation).exec k =
      (.ok (), k.replaceItems order id d items) := by
  unfold writeItems
  simp only [exec_bind, exec_change, exec_announce, exec_modify, mapState_touch live]
  rfl

/-- All items are replaced in one piece. -/
theorem exec_setItems (id : DatumId) (items : List Value) :
    (setItems order id items).exec k = k.settle (k.setItems order id items) := by
  unfold setItems
  rw [exec_bind, exec_get]
  refine exec_examine_bind _ fun d found => exec_examine_bind _ fun _ _ => ?_
  exact exec_writeItems (Kernel.requireDatum_ok.mp found) items

/-- An item is replaced in one piece. -/
theorem exec_setItem (id : DatumId) (index : Nat) (value : Value) :
    (setItem order id index value).exec k = k.settle (k.setItem order id index value) := by
  unfold setItem
  rw [exec_bind, exec_get]
  refine exec_examine_bind _ fun d found => exec_examine_bind _ fun items _ => ?_
  cases items[index]? with
  | none => rfl
  | some old =>
    dsimp only
    split
    · rfl
    · rw [exec_bind, exec_writeItems (Kernel.requireDatum_ok.mp found)]
      rfl

/-- An item is appended in one piece. -/
theorem exec_pushItem (id : DatumId) (value : Value) :
    (pushItem order id value).exec k = k.settle (k.pushItem order id value) := by
  unfold pushItem
  rw [exec_bind, exec_get]
  refine exec_examine_bind _ fun d found => exec_examine_bind _ fun items _ => ?_
  exact exec_writeItems (Kernel.requireDatum_ok.mp found) (items ++ [value])

/-- An item is removed in one piece. -/
theorem exec_removeItem (id : DatumId) (index : Nat) :
    (removeItem order id index).exec k = k.settle (k.removeItem order id index) := by
  unfold removeItem
  rw [exec_bind, exec_get]
  refine exec_examine_bind _ fun d found => exec_examine_bind _ fun items _ => ?_
  cases items[index]? with
  | none => rfl
  | some removed =>
    dsimp only
    rw [exec_bind, exec_writeItems (Kernel.requireDatum_ok.mp found)]
    rfl

/-- A status is written in one piece. -/
theorem exec_updateStatus (id : DatumId) (target : Datum → Status) (status : Status)
    (same : ∀ d, k.datums[id]? = some d → target d = status) :
    (updateStatus order id status).exec k =
      k.settle (k.requireDatum id >>= fun d => pure (k.updateStatus order id d (target d))) := by
  unfold updateStatus
  rw [exec_bind, exec_get]
  refine exec_examine_bind _ fun d found => ?_
  have live := Kernel.requireDatum_ok.mp found
  rw [same d live, Kernel.updateStatus]
  dsimp only
  split
  · rfl
  · simp only [exec_bind, exec_change, exec_announce, exec_report, exec_modify, exec_pure,
      mapState_touch live]
    rfl

/-- The availability of a datum is changed in one piece. -/
theorem exec_setAvailability (id : DatumId) (a : Availability) :
    (setAvailability order id a).exec k = k.settle (k.setAvailability order id a) := by
  cases a with
  | loading => exact exec_updateStatus id _ _ fun _ _ => rfl
  | ready => exact exec_updateStatus id _ _ fun _ _ => rfl
  | error =>
    rw [setAvailability, exec_bind, exec_examine, Kernel.setAvailability]
    cases found : k.requireDatum id with
    | error fault => rfl
    | ok d =>
      have live := Kernel.requireDatum_ok.mp found
      have one (x : Datum) (hx : k.datums[id]? = some x) :
          Status.failed x.status.payload = .failed d.status.payload := by
        cases live.symm.trans hx
        rfl
      have written : (updateStatus order id _).exec k = _ :=
        exec_updateStatus id (fun x => .failed x.status.payload) _ one
      rw [found] at written
      exact written

/-- A datum fails in one piece. -/
theorem exec_setError (id : DatumId) (payload : Value) :
    (setError order id payload).exec k = k.settle (k.setError order id payload) :=
  exec_updateStatus id _ _ fun _ _ => rfl

/-! Destruction. -/

/-- Subscriptions are removed one after the other. -/
theorem exec_removeEdges (ids : List SubscriptionId) :
    (removeEdges ids).exec k = (.ok (), k.removeEdges ids) :=
  exec_forM (fun _ _ => rfl) ids k

/-- A datum is destroyed in one piece. -/
theorem exec_destroyDatum (id : DatumId) :
    (destroyDatum order id).exec k = k.settle (k.destroyDatum order id) := by
  refine exec_examine_bind _ fun d found => ?_
  rw [exec_bind, exec_get, Kernel.razeDatum, Kernel.requireDatum_ok.mp found]
  dsimp only
  rw [exec_bind, exec_removeEdges]
  cases d.owner <;> rfl

/-- A datum that is destroyed if it is live is so in one piece. -/
theorem exec_destroyDatum_if_live (k : Kernel κ) (id : DatumId) :
    (do if (← get).datums.contains id then destroyDatum order id : Routine κ Unit).exec k =
      (.ok (), k.razeDatum order id) := by
  rw [exec_bind, exec_get]
  dsimp only
  rw [Std.ExtTreeMap.contains_eq_isSome_getElem?]
  cases live : k.datums[id]? with
  | none =>
    rw [Kernel.razeDatum, live]
    rfl
  | some d =>
    rw [Option.isSome_some, if_pos rfl, exec_destroyDatum, Kernel.destroyDatum,
      Kernel.requireDatum_ok.mpr live]
    rfl

/-- A closure that is not live is left alone. -/
theorem razeClosure_dead {id : ClosureId} (dead : k.closures[id]? = none) (fuel : Nat) :
    Kernel.razeClosure order fuel k id = k := by
  cases fuel with
  | zero => rfl
  | succ fuel => rw [Kernel.razeClosure, dead]

/-- A live closure is destroyed in one piece. -/
theorem exec_razeClosure (fuel : Nat) {id : ClosureId} {c : Closure}
    (live : k.closures[id]? = some c) :
    (razeClosure order fuel id).exec k = (.ok (), Kernel.razeClosure order fuel k id) := by
  induction fuel generalizing k id c with
  | zero => rfl
  | succ fuel ih =>
    have child (m : Kernel κ) (x : ClosureId) :
        (do if (← get).closures.contains x then razeClosure order fuel x : Routine κ Unit).exec m =
          (.ok (), Kernel.razeClosure order fuel m x) := by
      rw [exec_bind, exec_get]
      dsimp only
      rw [Std.ExtTreeMap.contains_eq_isSome_getElem?]
      cases there : m.closures[x]? with
      | none =>
        rw [razeClosure_dead there]
        rfl
      | some c =>
        rw [Option.isSome_some, if_pos rfl]
        exact ih there
    rw [razeClosure, exec_examine_of_ok (Kernel.requireClosure_ok.mpr live), Kernel.razeClosure,
      live]
    simp only [exec_bind, exec_get, exec_change, exec_removeEdges,
      exec_forM exec_destroyDatum_if_live, exec_forM child]
    cases c.parent <;> rfl

/-- A closure is destroyed in one piece. -/
theorem exec_destroyClosure (id : ClosureId) :
    (destroyClosure order id).exec k = k.settle (k.destroyClosure order id) := by
  unfold destroyClosure Kernel.destroyClosure
  rw [exec_bind, exec_get]
  cases found : k.requireClosure id with
  | error fault =>
    dsimp only
    rw [razeClosure, exec_bind, exec_examine, found]
    rfl
  | ok c => exact exec_razeClosure _ (Kernel.requireClosure_ok.mp found)

end Routine

open Routine

/-- A command is done in one piece, or it leaves the kernel as it was. -/
theorem Command.perform_eq (order : EdgeOrder κ) (c : Command κ) (k : Kernel κ) :
    c.perform order k = k.settle (c.attempt order k) := by
  cases c with
  | createDatum typeName fields owner => exact exec_createNode typeName _ owner
  | createCollection typeName items owner => exact exec_createNode typeName _ owner
  | createClosure template parent => exact exec_createClosure template parent
  | subscribe source target selector code => exact exec_subscribe source target selector code
  | set node field value =>
    cases node with
    | datum id => exact exec_setDatumField id field value
    | closure id => exact exec_setClosureField id field value
  | setItems id items => exact exec_setItems id items
  | setItem id index value => exact exec_setItem id index value
  | pushItem id value => exact exec_pushItem id value
  | removeItem id index => exact exec_removeItem id index
  | setAvailability id a => exact exec_setAvailability id a
  | setError id payload => exact exec_setError id payload
  | destroyDatum id => exact exec_destroyDatum id
  | destroyClosure id => exact exec_destroyClosure id
  | unsubscribe id | putEvent event | register name template => rfl

/-- An instantiation goes on from the closure that it has made, with its parameters. -/
theorem Kernel.instantiate_eq (order : EdgeOrder κ) (k : Kernel κ) (template : String)
    (parent : Option ClosureId) (params : List (String × Value)) :
    k.instantiate order template parent params = match k.templates.require template with
      | .error fault => .done (.error fault) k
      | .ok t =>
        match k.createClosure template parent with
        | .error fault => .done (.error fault) k
        | .ok (id, k) =>
          ((k.setParams id params).wire id t).bind fun outcome k =>
            let (reply, k) := k.concludeInstantiation order id template outcome
            .done reply k := by
  unfold instantiate
  rw [exec_openInstance]
  cases k.createClosure template parent <;> rfl

end ReactiveKernel
