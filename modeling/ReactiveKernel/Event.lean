import ReactiveKernel.Interchange

/-!
# Events from outside

Producers outside the kernel speak of nodes by raw numbers. Their events wait in a queue and
are decoded when they are applied.
-/

namespace ReactiveKernel

/-- A request from outside the kernel. -/
inductive Event (κ : Type) where
  | set (node : Nat) (field : String) (value : Value)
  | setItems (datum : Nat) (items : List Value)
  | setAvailability (datum : Nat) (availability : Availability)
  | setError (datum : Nat) (payload : Value)
  /-- Run host code. -/
  | invoke (code : κ)

variable {κ : Type}

namespace Event

/-- Name of a kind of event in logs. -/
def tag : Event κ → String
  | .set .. => "set"
  | .setItems .. => "set_items"
  | .setAvailability .. => "set_availability"
  | .setError .. => "set_error"
  | .invoke _ => "invoke"

/-- An event in constructor notation. Of a list only the length is shown, and nothing of code. -/
def term : Event κ → Text.Term
  | .set node field value =>
    .record "Set" [("node", .nat node), ("field", .text field), ("value", value.term)] false
  | .setItems datum items =>
    .record "SetItems" [("datum", .nat datum), ("len", .nat items.length)] false
  | .setAvailability datum availability =>
    .record "SetAvailability" [("datum", .nat datum), ("availability", availability.term)] false
  | .setError datum payload =>
    .record "SetError" [("datum", .nat datum), ("payload", payload.term)] false
  | .invoke _ => .atom "Invoke(..)"

/-- An event that could not be sent, as it is handed back to its producer. -/
structure Unsent (κ : Type) where
  /-- The event. -/
  event : Event κ

/-- The text of the refusal. -/
def Unsent.message (_ : Unsent κ) : String := "sending on a closed channel"

/-- Put an event at the end of a queue. Without a queue, because its kernel is gone, the event is
handed back. -/
def send (event : Event κ) : Option (List (Event κ)) → Except (Unsent κ) (List (Event κ))
  | none => .error ⟨event⟩
  | some queue => .ok (queue ++ [event])

end Event

end ReactiveKernel
