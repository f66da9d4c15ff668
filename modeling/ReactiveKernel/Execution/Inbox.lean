import ReactiveKernel.Execution.Activity

/-!
# Applying outside events

The whole queue is taken and applied in order of arrival. A refused event is reported and the
next one is applied all the same. Then the waves are run.
-/

namespace ReactiveKernel

variable {κ : Type}

/-- The command that an event stands for; invoked code is none. -/
def Event.toCommand : Event κ → Except Fault (Option (Command κ))
  | .set node field value => .ok (some (.set (.ofRaw node) field value))
  | .setItems datum items => do return some (.setItems (← DatumId.ofRaw datum) items)
  | .setAvailability datum a => do return some (.setAvailability (← DatumId.ofRaw datum) a)
  | .setError datum payload => do return some (.setError (← DatumId.ofRaw datum) payload)
  | .invoke _ => .ok none

namespace Kernel

/-- Apply one event. -/
def applyEvent (order : EdgeOrder κ) (k : Kernel κ) : Event κ → Activity κ (Except Fault Unit)
  | .invoke code => .react code .invoked k .done
  | event =>
    match event.toCommand with
    | .error fault => .done (.error fault) k
    | .ok none => .done (.ok ()) k
    | .ok (some c) =>
      let (reply, k) := c.perform order k
      .done (reply.map fun _ => ()) k

/-- Apply events in order, counting those applied and those refused. -/
def applyEvents (order : EdgeOrder κ) :
    List (Event κ) → Nat → Nat → Kernel κ → Activity κ (Nat × Nat)
  | [], applied, rejected, k => .done (applied, rejected) k
  | event :: rest, applied, rejected, k =>
    ((k.note (.applying event)).applyEvent order event).bind fun
      | .ok (), k => applyEvents order rest (applied + 1) rejected k
      | .error fault, k =>
        applyEvents order rest applied (rejected + 1) (k.log (.eventRejected event.tag fault))

/-- Apply the waiting events and drain. Within a drain this is refused. -/
def drainEvents (order : EdgeOrder κ) (k : Kernel κ) : Activity κ (Except Fault DrainReport) :=
  if k.schedule.draining then .done (.error .reentrant) k
  else
    let (queued, k) := k.takeEvents
    (k.applyEvents order queued 0 0).bind fun (applied, rejected) k =>
      .call .drain (k.log (.eventsApplied applied rejected)) fun
        | .ok report, k =>
          .done (.ok { report with eventsApplied := applied, eventsRejected := rejected }) k
        | .error fault, k => .done (.error fault) k

end Kernel

end ReactiveKernel
