import ReactiveKernel.Execution.Activity

/-!
# Instantiation

An instance of a template is a closure that its host code has wired and that has a child for
each top call site. When a step fails, what was built so far is destroyed and the fault of that
step is the outcome.
-/

namespace ReactiveKernel

variable {κ : Type}

namespace Kernel

/-- The end of an instantiation. A closure that its own wiring destroyed is a fault. -/
def concludeInstantiation (k : Kernel κ) (order : EdgeOrder κ) (id : ClosureId)
    (template : String) : Except Fault Unit → Except Fault ClosureId × Kernel κ
  | .error fault =>
    (.error fault, (k.log (.instantiateFailed id template fault)).raze order id)
  | .ok () =>
    if k.closures.contains id then
      (.ok id, (k.emit (.closureInstantiated id template)).log (.instantiated id template))
    else (.error (.unknownClosure id), k.log (.destroyedWhileInstantiated id template))

/-- The call site of a live closure. -/
def findCallSite (k : Kernel κ) (parent : ClosureId) (index : Nat) :
    Except Fault (CallSite κ) := do
  let c ← k.requireClosure parent
  let t ← k.templates.require c.template
  match t.callSites[index]? with
  | some site => return site
  | none => throw (.unknownCallSite c.template index)

/-- The template to run: the named one, or the one that the entry name stands for. -/
def resolveRun (k : Kernel κ) : Option String → Except Fault String
  | some name => .ok name
  | none => k.templates.resolveEntry k.settings.entryTemplate

/-- Make the children of a new closure in order. -/
def makeChildren (id : ClosureId) : List Nat → Kernel κ → Activity κ (Except Fault Unit)
  | [], k => .done (.ok ()) k
  | index :: rest, k =>
    .call (.callSite id index) k fun
      | .ok _, k => makeChildren id rest k
      | .error fault, k => .done (.error fault) k

/-- Wire a new closure and make its children. -/
def wire (k : Kernel κ) (id : ClosureId) (t : Template κ) : Activity κ (Except Fault Unit) :=
  (Activity.reactTo t.internal (.instantiated id) k).andThen fun _ k =>
    k.makeChildren id t.topChildren

/-- Make an instance of a template. -/
def instantiate (order : EdgeOrder κ) (k : Kernel κ) (template : String)
    (parent : Option ClosureId) (params : List (String × Value)) :
    Activity κ (Except Fault ClosureId) :=
  match k.templates.require template with
  | .error fault => .done (.error fault) k
  | .ok t =>
    match (Routine.openInstance template parent params).exec k with
    | (.error fault, k) => .done (.error fault) k
    | (.ok id, k) =>
      (k.wire id t).bind fun outcome k =>
        let (reply, k) := k.concludeInstantiation order id template outcome
        .done reply k

/-- Make the child of a call site and wire it to its parent. -/
def callSite (order : EdgeOrder κ) (k : Kernel κ) (parent : ClosureId) (index : Nat) :
    Activity κ (Except Fault ClosureId) :=
  match k.findCallSite parent index with
  | .error fault => .done (.error fault) k
  | .ok site =>
    .call (.instantiate site.template (some parent) []) k fun
      | .error fault, k => .done (.error fault) k
      | .ok child, k =>
        (Activity.reactTo site.binding (.attached parent child) k).bind fun
          | .ok (), k => .done (.ok child) k
          | .error fault, k => .done (.error fault) (k.raze order child)

/-- Make an instance of a template without a parent, and drain. -/
def run (order : EdgeOrder κ) (k : Kernel κ) (template : Option String) :
    Activity κ (Except Fault ClosureId) :=
  match k.resolveRun template with
  | .error fault => .done (.error fault) k
  | .ok name =>
    .call (.instantiate name none []) k fun
      | .error fault, k => .done (.error fault) k
      | .ok root, k =>
        .call .drain k fun
          | .ok report, k => .done (.ok root) (k.log (.ran name root report.waves))
          | .error fault, k =>
            .done (.error fault) ((k.log (.runFailed name root fault)).raze order root)

end Kernel

end ReactiveKernel
