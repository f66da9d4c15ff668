import ReactiveKernel.Journal

/-!
# Canonical order of records

The order in which a set of subscriptions is walked shows in records only: in stretches of
removals, and in stretches of entries about one source. A record is canonical when every such
stretch is in ascending order of the subscriptions.
-/

namespace ReactiveKernel

/-- A place in a stretch: what the stretch is about, and the subscription's raw number. -/
abbrev StretchMark (ρ : Type) := ρ × Nat

variable {α ρ : Type} [DecidableEq ρ]

/-- Put an entry in front of a record whose stretches are in order, keeping them in order. -/
def insertInStretch (mark : α → Option (StretchMark ρ)) (a : α) : List α → List α
  | [] => [a]
  | b :: rest =>
    match mark a, mark b with
    | some (stretch, n), some (stretch', n') =>
      if stretch = stretch' ∧ n' < n then b :: insertInStretch mark a rest else a :: b :: rest
    | _, _ => a :: b :: rest

/-- Put every stretch of a record in ascending order. -/
def sortStretches (mark : α → Option (StretchMark ρ)) (record : List α) : List α :=
  record.foldr (insertInStretch mark) []

/-- Consecutive removals form a stretch. -/
def TraceEvent.mark : TraceEvent → Option (StretchMark Unit)
  | .unsubscribed id => some ((), id.raw)
  | _ => none

/-- Trace events with every stretch of removals in ascending order. -/
def TraceEvent.canonical (events : List TraceEvent) : List TraceEvent :=
  sortStretches TraceEvent.mark events

/-- Consecutive notifications of one source form a stretch, and so do traced removals. -/
def LogEvent.mark : LogEvent → Option (StretchMark (Option NodeId))
  | .enqueued id source => some (some source, id.raw)
  | .traced (.unsubscribed id) => some (none, id.raw)
  | _ => none

/-- Log entries with every stretch in ascending order. -/
def LogEvent.canonical (entries : List LogEvent) : List LogEvent :=
  sortStretches LogEvent.mark entries

end ReactiveKernel
