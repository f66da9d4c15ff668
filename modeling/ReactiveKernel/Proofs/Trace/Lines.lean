import Mathlib.Data.List.Forall2
import ReactiveKernel.Proofs.Json.Reading
import ReactiveKernel.Trace

/-!
# Lines of a written recording

A recording is written as one line for each event. No control stands in the text of an event, since
strings are written with their controls escaped, so a newline is found at the end of each line and
nowhere else. The text of a line is an object whose first member names the kind of event.
-/

namespace ReactiveKernel.TraceEvent

open Json (Document MembersMean le_of_mem_chars means_object means_text membersMean_cons
  read_render)

/-- The name of a case in small letters is the tag of its events. -/
theorem snakeCase_caseName (e : TraceEvent) : Text.snakeCase e.caseName = e.tag := by
  cases e <;> simp only [caseName, tag] <;> decide

/-- A line that holds an event. -/
structure OnLine (e : TraceEvent) (line : List Char) : Prop where
  /-- It is the compact text of the event. -/
  text : line = e.toJson.chars
  /-- No control stands in it, and so no newline and no carriage return. -/
  plain : ∀ c ∈ line, 0x20 ≤ c.toNat
  /-- It is read as an object that has the tag as its first member and then the details. -/
  object : ∃ details, Document.read (String.ofList line) =
      some (.object ((some "event", .text (some e.tag)) :: details)) ∧
    MembersMean e.members details

/-- The text of an event is on one line. -/
theorem onLine_chars (e : TraceEvent) : e.OnLine e.toJson.chars := by
  refine ⟨rfl, fun c => le_of_mem_chars e.toJson, ?_⟩
  obtain ⟨d, read, means⟩ := read_render e.toJson
  rw [toJson, snakeCase_caseName, means_object] at means
  obtain ⟨_, rfl, all⟩ := means
  obtain ⟨_, details, rfl, first, others⟩ := membersMean_cons.mp all
  exact ⟨details, means_text.mp first ▸ read, others⟩

/-- No line ends within the text of an event. -/
theorem newline_notMem_chars (e : TraceEvent) : '\n' ∉ e.toJson.chars := by
  intro inside
  exact absurd (le_of_mem_chars e.toJson inside) (by decide)

/-- Written events are their lines, each with a newline behind it. -/
theorem splitOn_jsonLines (events : List TraceEvent) :
    (jsonLines events).splitOn '\n' = events.map (fun e => e.toJson.chars) ++ [[]] := by
  induction events with
  | nil => rfl
  | cons e events ih =>
    have inside : ∀ c ∈ e.toJson.chars, (c == '\n') = false := by
      intro c member
      rw [beq_eq_false_iff_ne]
      rintro rfl
      exact newline_notMem_chars e member
    rw [jsonLines, List.flatMap_cons, List.append_assoc, List.singleton_append]
    exact (List.splitOnP_append_cons_of_forall_mem inside '\n' rfl _).trans
      (congrArg (e.toJson.chars :: ·) ih)

/-- There are as many lines as events. -/
theorem count_newline_jsonLines (events : List TraceEvent) :
    (jsonLines events).count '\n' = events.length := by
  induction events with
  | nil => rfl
  | cons e events ih =>
    have none := List.count_eq_zero_of_not_mem (newline_notMem_chars e)
    rw [jsonLines, List.flatMap_cons, List.count_append, List.count_append, none]
    rw [jsonLines] at ih
    simp [ih, Nat.add_comm]

/-- A recording is written with one newline for each event. Split at the newlines it gives the lines
of the events in the order of the recording, and nothing behind the last one. -/
theorem jsonLines_framed (events : List TraceEvent) :
    (jsonLines events).count '\n' = events.length ∧
      ∃ lines, (jsonLines events).splitOn '\n' = lines ++ [[]] ∧
        List.Forall₂ OnLine events lines := by
  refine ⟨count_newline_jsonLines events, _, splitOn_jsonLines events, ?_⟩
  rw [List.forall₂_map_right_iff, List.forall₂_same]
  exact fun e _ => onLine_chars e

end ReactiveKernel.TraceEvent
