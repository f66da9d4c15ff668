import ReactiveKernel.Proofs.Run.Action
import ReactiveKernel.Proofs.Run.Lockstep

/-!
# Operations in accord

Outside of drains, an operation looks at the closures and the templates of a kernel only, and does
little to it besides commands. Two kernels with the same closures and templates, that stay related
whatever commands are given to both of them, are therefore taken through the same points. What is
to be known of the relation is said once, and all that compares two runs of an operation can draw
on it.
-/

namespace ReactiveKernel

variable {κ α β : Type}

namespace Activity

/-- Two activities at the same point with related kernels, now and after all answers that may differ
in what is not looked at. No callback is notified, and no host code is in control. -/
inductive Accord (R : Kernel κ → Kernel κ → Prop)
    (answers : (c : Call) → Except Fault c.Reply → Except Fault c.Reply → Prop) :
    Activity κ α → Activity κ α → Prop
  /-- Both have ended, with the same result. -/
  | done (a : α) {k k' : Kernel κ} : R k k' → Accord R answers (.done a k) (.done a k')
  /-- The same host code is due. -/
  | react (code : κ) (occasion : Occasion) {k k' : Kernel κ}
      {next next' : Except Fault Unit → Kernel κ → Activity κ α} :
      (∀ n, occasion ≠ .notified n) → R k k' →
      (∀ r m m', R m m' → Accord R answers (next r m) (next' r m')) →
      Accord R answers (.react code occasion k next) (.react code occasion k' next')
  /-- The same call is to be made. -/
  | call (c : Call) {k k' : Kernel κ}
      {next next' : Except Fault c.Reply → Kernel κ → Activity κ α} : R k k' →
      (∀ r r' m m', answers c r r' → R m m' → Accord R answers (next r m) (next' r' m')) →
      Accord R answers (.call c k next) (.call c k' next')

variable {R : Kernel κ → Kernel κ → Prop}
  {answers : (c : Call) → Except Fault c.Reply → Except Fault c.Reply → Prop} {k k' : Kernel κ}

/-- Activities in accord that are followed by activities in accord. -/
theorem Accord.bind {a a' : Activity κ α} {f f' : α → Kernel κ → Activity κ β}
    (h : Accord R answers a a')
    (rest : ∀ x k k', R k k' → Accord R answers (f x k) (f' x k')) :
    Accord R answers (a.bind f) (a'.bind f') := by
  induction h with
  | done x related => exact rest x _ _ related
  | react code occasion other related _ ih => exact .react code occasion other related ih
  | call c related _ ih => exact .call c related ih

/-- Activities that are in accord if answers are the same are in lockstep. -/
theorem Accord.lockstep {admits : Program κ (Except Fault Unit) → Prop} {a a' : Activity κ α}
    (h : Accord R (fun _ => Eq) a a') : Lockstep R admits a a' := by
  induction h with
  | done x related => exact .done x related
  | react code occasion _ related _ ih => exact .react code occasion related ih
  | call c related _ ih => exact .call c related fun r m m' back => ih r r m m' rfl back

theorem accord_reactTo (code : Option κ) {occasion : Occasion}
    (other : ∀ n, occasion ≠ .notified n) (h : R k k') :
    Accord R answers (reactTo code occasion k) (reactTo code occasion k') := by
  cases code with
  | none => exact .done _ h
  | some code => exact .react code occasion other h fun r _ _ back => .done r back

end Activity

/-- The kernels show the same to operations other than drains, commands and what else such an
operation does keep them related, and answers to calls are the same, but for the reports of drains.
Of those, only the number of waves is to be the same. -/
structure Accordant (R : Kernel κ → Kernel κ → Prop)
    (answers : (c : Call) → Except Fault c.Reply → Except Fault c.Reply → Prop)
    (order order' : EdgeOrder κ) : Prop where
  /-- The same closures are live. -/
  closures : ∀ {k k'}, R k k' → k'.closures = k.closures
  /-- The same templates are registered. -/
  templates : ∀ {k k'}, R k k' → k'.templates = k.templates
  /-- The same template is run if none is named. -/
  entryTemplate : ∀ {k k'}, R k k' → k'.settings.entryTemplate = k.settings.entryTemplate
  /-- The same entry in both journals. -/
  note : ∀ {k k'} (o : Occurrence κ), R k k' → R (k.note o) (k'.note o)
  /-- The same announcement. -/
  emit : ∀ {k k'} (e : TraceEvent), R k k' → R (k.emit e) (k'.emit e)
  /-- The same command. -/
  command : ∀ {k k'} (c : Command κ), R k k' →
    (c.perform order' k').1 = (c.perform order k).1 ∧
      R (c.perform order k).2 (c.perform order' k').2
  /-- A new closure gets the same parameters. -/
  setParams : ∀ {k k'} (id : ClosureId) (params : List (String × Value)), R k k' →
    R (k.setParams id params) (k'.setParams id params)
  /-- An instantiation is answered alike. -/
  instantiated : ∀ {template parent params r r'},
    answers (.instantiate template parent params) r r' → r' = r
  /-- A call site is answered alike. -/
  called : ∀ {parent index r r'}, answers (.callSite parent index) r r' → r' = r
  /-- A drain fails alike, or takes the same number of waves. -/
  drained : ∀ {r r' : Except Fault DrainReport}, answers .drain r r' →
    r'.map DrainReport.waves = r.map DrainReport.waves

namespace Accordant

open Activity Kernel

variable {R : Kernel κ → Kernel κ → Prop}
  {answers : (c : Call) → Except Fault c.Reply → Except Fault c.Reply → Prop}
  {order order' : EdgeOrder κ} {k k' : Kernel κ}

section

variable (accordant : Accordant R answers order order')

include accordant

theorem log (e : LogEvent) (h : R k k') : R (k.log e) (k'.log e) := accordant.note _ h

theorem raze (id : ClosureId) (h : R k k') : R (k.raze order id) (k'.raze order' id) := by
  rw [raze_eq_perform, raze_eq_perform]
  exact (accordant.command (.destroyClosure id) h).2

/-- A closure is refused in both kernels, or made in both. -/
theorem createClosure (template : String) (parent : Option ClosureId) (h : R k k') :
    (∃ fault, k.createClosure template parent = .error fault ∧
      k'.createClosure template parent = .error fault) ∨
    ∃ id m m', k.createClosure template parent = .ok (id, m) ∧
      k'.createClosure template parent = .ok (id, m') ∧ R m m' := by
  obtain ⟨reply, back⟩ := accordant.command (.createClosure template parent) h
  simp only [Command.perform_eq, Command.attempt] at reply back
  cases made : k.createClosure template parent <;>
    cases made' : k'.createClosure template parent <;>
    simp only [made, made', settle] at reply back
  case error.error fault fault' =>
    exact .inl ⟨fault, rfl, congrArg Except.error (Except.error.inj reply)⟩
  case ok.ok r r' =>
    obtain ⟨id, m⟩ := r
    obtain ⟨id', m'⟩ := r'
    cases reply
    exact .inr ⟨id, m, m', rfl, rfl, back⟩
  all_goals cases reply

/-! Instantiation. -/

theorem makeChildren (id : ClosureId) (indices : List Nat) (h : R k k') :
    Accord R answers (k.makeChildren id indices) (k'.makeChildren id indices) := by
  induction indices generalizing k k' with
  | nil => exact .done _ h
  | cons index rest ih =>
    refine .call (.callSite id index) h fun r r' m m' alike back => ?_
    obtain rfl := accordant.called alike
    cases r' with
    | ok child => exact ih back
    | error fault => exact .done _ back

theorem wire (id : ClosureId) (t : Template κ) (h : R k k') :
    Accord R answers (k.wire id t) (k'.wire id t) := by
  refine (accord_reactTo t.internal (by simp) h).bind fun r m m' back => ?_
  cases r with
  | ok u => exact accordant.makeChildren id t.topChildren back
  | error fault => exact .done _ back

theorem conclude (id : ClosureId) (template : String) (outcome : Except Fault Unit)
    (h : R k k') :
    Accord R answers (.done (k.concludeInstantiation order id template outcome).1
        (k.concludeInstantiation order id template outcome).2)
      (.done (k'.concludeInstantiation order' id template outcome).1
        (k'.concludeInstantiation order' id template outcome).2) := by
  cases outcome with
  | error fault => exact .done _ (accordant.raze id (accordant.log _ h))
  | ok u =>
    simp only [concludeInstantiation, accordant.closures h]
    split
    · exact .done _ (accordant.log _ (accordant.emit _ h))
    · exact .done _ (accordant.log _ h)

theorem instantiate (template : String) (parent : Option ClosureId)
    (params : List (String × Value)) (h : R k k') :
    Accord R answers (k.instantiate order template parent params)
      (k'.instantiate order' template parent params) := by
  simp only [Kernel.instantiate_eq, accordant.templates h]
  cases k.templates.require template with
  | error fault => exact .done _ h
  | ok t =>
    rcases accordant.createClosure template parent h with
      ⟨fault, refused, refused'⟩ | ⟨id, m, m', made, made', related⟩
    · simp only [refused, refused']
      exact .done _ h
    · simp only [made, made']
      refine (accordant.wire id t (accordant.setParams id params related)).bind
        fun r n n' back => ?_
      exact accordant.conclude id template r back

theorem callSite (parent : ClosureId) (index : Nat) (h : R k k') :
    Accord R answers (k.callSite order parent index) (k'.callSite order' parent index) := by
  have live : k'.requireClosure parent = k.requireClosure parent := by
    rw [State.requireClosure, State.requireClosure, accordant.closures h]
  have found : k'.findCallSite parent index = k.findCallSite parent index := by
    rw [findCallSite, findCallSite, live, accordant.templates h]
  unfold Kernel.callSite
  rw [found]
  cases k.findCallSite parent index with
  | error fault => exact .done _ h
  | ok site =>
    refine .call (.instantiate site.template (some parent) []) h fun r r' m m' alike back => ?_
    obtain rfl := accordant.instantiated alike
    cases r' with
    | error fault => exact .done _ back
    | ok child =>
      refine (accord_reactTo site.binding (by simp) back).bind fun r n n' after => ?_
      cases r with
      | ok u => exact .done _ after
      | error fault => exact .done _ (accordant.raze child after)

theorem run (template : Option String) (h : R k k') :
    Accord R answers (k.run order template) (k'.run order' template) := by
  have resolved : k'.resolveRun template = k.resolveRun template := by
    unfold resolveRun
    rw [accordant.templates h, accordant.entryTemplate h]
  unfold Kernel.run
  rw [resolved]
  cases k.resolveRun template with
  | error fault => exact .done _ h
  | ok name =>
    refine .call (.instantiate name none []) h fun r r' m m' alike back => ?_
    obtain rfl := accordant.instantiated alike
    cases r' with
    | error fault => exact .done _ back
    | ok root =>
      refine .call .drain back fun r r' n n' alike after => ?_
      have drained := accordant.drained alike
      cases r with
      | error fault =>
        cases r' with
        | ok report' => cases drained
        | error fault' =>
          cases drained
          exact .done _ (accordant.raze root (accordant.log _ after))
      | ok report =>
        cases r' with
        | error fault' => cases drained
        | ok report' =>
          have waves : report'.waves = report.waves := Except.ok.inj drained
          simp only [waves]
          exact .done _ (accordant.log _ after)

/-! Outside events. -/

theorem applyEvent (event : Event κ) (h : R k k') :
    Accord R answers (k.applyEvent order event) (k'.applyEvent order' event) := by
  cases event with
  | invoke code => exact .react code .invoked (by simp) h fun r _ _ back => .done r back
  | set _ _ _ | setItems _ _ | setAvailability _ _ | setError _ _ =>
    simp only [Kernel.applyEvent]
    split
    · exact .done _ h
    · exact .done _ h
    · next c _ =>
      obtain ⟨reply, back⟩ := accordant.command c h
      rw [reply]
      exact .done _ back

theorem applyEvents (events : List (Event κ)) (applied rejected : Nat) (h : R k k') :
    Accord R answers (k.applyEvents order events applied rejected)
      (k'.applyEvents order' events applied rejected) := by
  induction events generalizing applied rejected k k' with
  | nil => exact .done _ h
  | cons event rest ih =>
    refine (accordant.applyEvent event (accordant.note _ h)).bind fun r m m' back => ?_
    cases r with
    | ok u => exact ih _ _ back
    | error fault => exact ih _ _ (accordant.log _ back)

end

end Accordant

end ReactiveKernel
