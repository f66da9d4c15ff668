import ReactiveKernel.Json.Basic
import ReactiveKernel.Json.Document

/-!
# Strings of JSON texts

Every character of a string is written as one part of a JSON string: as itself, as an escape of one
letter or, if it is another control, as an escaped unit. Reading the parts gives the characters
back, so a string that is written is read as itself, whatever characters it holds. No control stands
in a JSON string as it is.
-/

namespace ReactiveKernel.Json

open Document

/-- The part of a JSON string that stands for a character. -/
def piece (c : Char) : Piece :=
  if c.toNat < 0x20 ∧ c ∉ ['\x08', '\x0c', '\n', '\r', '\t'] then .unit c.toNat else .char c

/-- A hexadecimal digit is read back as its value. -/
theorem hexValue_digitChar {n : Nat} (h : n < 16) : hexValue (Nat.digitChar n) = some n := by
  decide +revert

/-- The escaped unit of a control. -/
theorem hexUnit_control {n : Nat} (h : n < 0x20) :
    hexUnit '0' '0' (Nat.digitChar (n / 16)) (Nat.digitChar (n % 16)) = some n := by
  have zero : hexValue '0' = some 0 := rfl
  have high := hexValue_digitChar (n := n / 16) (by omega)
  have low := hexValue_digitChar (n := n % 16) (by omega)
  simp only [hexUnit, zero, high, low]
  exact congrArg some (by omega)

/-- An escape of one letter is read as one part. -/
theorem readPieces_letter {letter c : Char} (escape : shortEscape letter = some c)
    (single : letter ≠ 'u') (rest : List Char) :
    readPieces ('\\' :: letter :: rest) =
      (readPieces rest).map fun read => (.char c :: read.1, read.2) := by
  rw [readPieces]
  · simp only [escape]
    cases readPieces rest <;> rfl
  · simp [single]

/-- What is written for a character is read as one part. -/
theorem readPieces_escapedChar (c : Char) (rest : List Char) :
    readPieces (escapedChar c ++ rest) =
      (readPieces rest).map fun read => (piece c :: read.1, read.2) := by
  unfold escapedChar
  split
  · next same =>
    subst same
    exact readPieces_letter rfl (by decide) rest
  split
  · next same =>
    subst same
    exact readPieces_letter rfl (by decide) rest
  split
  · next same =>
    subst same
    exact readPieces_letter rfl (by decide) rest
  split
  · next same =>
    subst same
    exact readPieces_letter rfl (by decide) rest
  split
  · next same =>
    subst same
    exact readPieces_letter rfl (by decide) rest
  split
  · next same =>
    subst same
    exact readPieces_letter rfl (by decide) rest
  split
  · next same =>
    subst same
    exact readPieces_letter rfl (by decide) rest
  split
  · next control =>
    have unit := hexUnit_control control
    have other : piece c = .unit c.toNat := if_pos ⟨control, by simp [*]⟩
    simp only [List.cons_append, List.nil_append, readPieces, unit, other]
    cases readPieces rest <;> rfl
  · next quote slash _ _ _ _ _ plain =>
    have itself : piece c = .char c := if_neg fun control => plain control.1
    rw [List.singleton_append, readPieces, if_neg plain, itself]
    · cases readPieces rest <;> rfl
    all_goals simp [quote, slash]

/-- Characters that were escaped are read piece by piece. -/
theorem readPieces_escaped (cs rest : List Char) :
    readPieces (cs.flatMap escapedChar ++ '"' :: rest) = some (cs.map piece, rest) := by
  induction cs with
  | nil => simp [readPieces]
  | cons c cs ih =>
    rw [List.flatMap_cons, List.append_assoc, readPieces_escapedChar, ih]
    rfl

/-- A control is not one of the two units of a pair. -/
theorem assemble_control {n : Nat} (h : n < 0x20) (pieces : List Piece) :
    assemble (.unit n :: pieces) = (assemble pieces).map (Char.ofNat n :: ·) := by
  have leading : isLeading n = false := by simp [isLeading]; omega
  have trailing : isTrailing n = false := by simp [isTrailing]; omega
  cases pieces with
  | nil => simp [assemble, leading, trailing]
  | cons p pieces => cases p <;> simp [assemble, leading, trailing]

/-- The parts that stand for some characters spell them. -/
theorem assemble_pieces (cs : List Char) : assemble (cs.map piece) = some cs := by
  induction cs with
  | nil => rfl
  | cons c cs ih =>
    rw [List.map_cons]
    unfold piece at ih ⊢
    split
    · next control => rw [assemble_control control.1, ih, Char.ofNat_toNat]; rfl
    · rw [assemble, ih]; rfl

/-- A string that is written is read as itself. -/
theorem readString_written (s : String) (rest : List Char) :
    readString (s.toList.flatMap escapedChar ++ '"' :: rest) = some (some s, rest) := by
  simp [readString, readPieces_escaped, assemble_pieces]

/-- No hexadecimal digit is a control character. -/
theorem le_digitChar {n : Nat} (h : n < 16) : 0x20 ≤ (Nat.digitChar n).toNat := by
  decide +revert

/-- No control stands in what is written for a character. -/
theorem le_of_mem_escapedChar {c d : Char} (h : d ∈ escapedChar c) : 0x20 ≤ d.toNat := by
  unfold escapedChar at h
  repeat' split at h
  all_goals simp only [List.mem_cons, List.not_mem_nil, or_false] at h
  case isFalse.isFalse.isFalse.isFalse.isFalse.isFalse.isFalse.isTrue control =>
    rcases h with rfl | rfl | rfl | rfl | rfl | rfl
    all_goals first | decide | exact le_digitChar (by omega)
  case isFalse.isFalse.isFalse.isFalse.isFalse.isFalse.isFalse.isFalse plain =>
    subst h
    omega
  all_goals rcases h with rfl | rfl <;> decide

/-- No control stands in a JSON string. -/
theorem le_of_mem_stringChars {s : String} {c : Char} (h : c ∈ stringChars s) :
    0x20 ≤ c.toNat := by
  simp only [stringChars, List.cons_append, List.mem_cons, List.mem_append, List.mem_flatMap,
    List.not_mem_nil, or_false] at h
  rcases h with rfl | ⟨d, _, h⟩ | rfl
  · decide
  · exact le_of_mem_escapedChar h
  · decide

end ReactiveKernel.Json
