import ReactiveKernel.Json.Basic
import ReactiveKernel.Json.Document
import ReactiveKernel.Proofs.Number.Digits

/-!
# Numerals of JSON texts

An integer that is written is read as a numeral with the same digits, and as the same integer when
it fits a word; a finite double is read as some numeral. Both are read to their end, since what
stands behind a value is a comma, a bracket or nothing.
-/

namespace ReactiveKernel.Json

open Document Layout

/-- What may stand behind a value: the end of the text, a comma, or a closing bracket or brace. -/
def Closing (rest : List Char) : Prop := ∀ c ∈ rest.head?, c = ',' ∨ c = ']' ∨ c = '\x7d'

/-- The end of a text may stand behind a value. -/
theorem closing_nil : Closing [] := by simp [Closing]

/-- A comma may stand behind a value. -/
theorem closing_comma (rest : List Char) : Closing (',' :: rest) := by simp [Closing]

/-- A closing bracket may stand behind a value. -/
theorem closing_bracket (rest : List Char) : Closing (']' :: rest) := by simp [Closing]

/-- A closing brace may stand behind a value. -/
theorem closing_brace (rest : List Char) : Closing ('\x7d' :: rest) := by simp [Closing]

/-- No digit comes next. -/
def NoDigit (rest : List Char) : Prop := ∀ c ∈ rest.head?, c.isDigit = false

/-- No digit stands behind a value. -/
theorem Closing.noDigit {rest : List Char} (closing : Closing rest) : NoDigit rest := by
  intro c first
  rcases closing c first with rfl | rfl | rfl <;> rfl

/-- Digits are read up to what is none. -/
theorem readDigits_append {digits rest : List Char} (all : ∀ c ∈ digits, c.isDigit)
    (stop : NoDigit rest) : readDigits (digits ++ rest) = (digits.map digitOf, rest) := by
  unfold readDigits
  rw [List.takeWhile_append_of_pos all, List.dropWhile_append_of_pos all]
  cases rest with
  | nil => simp
  | cons c rest => simp [stop c rfl]

/-- The digits before a point: one at least, and no zero in front of others. -/
structure Whole (digits : List Char) : Prop where
  /-- There is a digit. -/
  ne_nil : digits ≠ []
  /-- All are decimal. -/
  decimal : ∀ c ∈ digits, c.isDigit
  /-- A leading zero stands alone. -/
  alone : digits.head? = some '0' → digits = ['0']

/-- Zero is the only digit whose value is zero. -/
theorem digitOf_eq_zero {c : Char} (digit : c.isDigit) (zero : digitOf c = 0) : c = '0' := by
  simp only [Char.isDigit, Bool.and_eq_true, decide_eq_true_eq] at digit
  have low : '0'.toNat ≤ c.toNat := digit.1
  apply Char.toNat_inj.mp
  unfold digitOf at zero
  omega

/-- After its sign a numeral is read in its parts. -/
theorem readUnsigned_whole {digits rest : List Char} (whole : Whole digits) (stop : NoDigit rest)
    (negative : Bool) :
    readUnsigned negative (digits ++ rest) =
      (readFraction rest).bind fun (fraction, rest) =>
        (readExponent rest).bind fun (exponent, rest) =>
          some (⟨negative, digits.map digitOf, fraction, exponent⟩, rest) := by
  unfold readUnsigned
  rw [readDigits_append whole.decimal stop]
  match digits, whole with
  | [], whole => exact absurd rfl whole.ne_nil
  | [c], _ =>
    simp only [List.map_cons, List.map_nil]
    cases digitOf c <;> rfl
  | c :: d :: digits, whole =>
    have leads : digitOf c ≠ 0 := by
      intro zero
      have zero := digitOf_eq_zero (whole.decimal c (List.mem_cons_self ..)) zero
      subst zero
      exact absurd (whole.alone rfl) (by simp)
    obtain ⟨n, value⟩ := Nat.exists_eq_succ_of_ne_zero leads
    simp only [List.map_cons, value]
    rfl

/-- A sign is read in front of a numeral. -/
theorem readNumeral_signed {digits rest : List Char} (whole : Whole digits) (negative : Bool) :
    readNumeral ((if negative then ['-'] else []) ++ (digits ++ rest)) =
      readUnsigned negative (digits ++ rest) := by
  cases negative with
  | true => rfl
  | false =>
    match digits, whole with
    | [], whole => exact absurd rfl whole.ne_nil
    | c :: digits, whole =>
      have digit := whole.decimal c (List.mem_cons_self ..)
      simp only [Bool.false_eq_true, if_false, List.nil_append, List.cons_append]
      unfold readNumeral
      split
      · next same =>
        cases same
        exact absurd digit (by decide)
      · rfl

/-- A fraction and its digits: nothing, or a point with digits behind it. -/
inductive FractionText : List Char → List Nat → Prop where
  | none : FractionText [] []
  | point {digits : List Char} (some : digits ≠ []) (decimal : ∀ c ∈ digits, c.isDigit) :
    FractionText ('.' :: digits) (digits.map digitOf)

/-- An exponent, whether it is below zero, and its digits: nothing, or a letter with a sign and
digits behind it. -/
inductive ExponentText : List Char → Option (Bool × List Nat) → Prop where
  | none : ExponentText [] none
  | signed {sign digits : List Char} (one : sign ∈ [[], ['+'], ['-']]) (some : digits ≠ [])
    (decimal : ∀ c ∈ digits, c.isDigit) :
    ExponentText ('e' :: (sign ++ digits)) (Option.some (sign == ['-'], digits.map digitOf))

/-- No digit comes first in a fraction, if none comes next. -/
theorem FractionText.noDigit {cs rest : List Char} {digits : List Nat}
    (fraction : FractionText cs digits) (stop : NoDigit rest) : NoDigit (cs ++ rest) := by
  cases fraction with
  | none => exact stop
  | point some decimal => simp [NoDigit]

/-- No digit comes first in an exponent, if none comes next. -/
theorem ExponentText.noDigit {cs rest : List Char} {value : Option (Bool × List Nat)}
    (exponent : ExponentText cs value) (stop : NoDigit rest) : NoDigit (cs ++ rest) := by
  cases exponent with
  | none => exact stop
  | signed one some decimal => simp [NoDigit]

/-- No point stands at the start of an exponent or of what closes a value. -/
theorem ExponentText.no_point {cs rest : List Char} {value : Option (Bool × List Nat)}
    (exponent : ExponentText cs value) (closing : Closing rest) :
    (cs ++ rest).head? ≠ some '.' := by
  cases exponent with
  | none =>
    intro first
    rcases closing '.' first with same | same | same <;> cases same
  | signed one some decimal => simp

/-- A fraction that was written is read, if no point comes next. -/
theorem readFraction_written {cs rest : List Char} {digits : List Nat}
    (fraction : FractionText cs digits) (stop : NoDigit rest) (point : rest.head? ≠ some '.') :
    readFraction (cs ++ rest) = some (digits, rest) := by
  unfold readFraction
  cases fraction with
  | none =>
    rw [List.nil_append]
    split
    · exact absurd rfl point
    · rfl
  | @point digits some decimal =>
    simp only [List.cons_append, readDigits_append decimal stop]
    cases digits with
    | nil => exact absurd rfl some
    | cons c digits => rfl

/-- An exponent that was written is read. -/
theorem readExponent_written {cs rest : List Char} {value : Option (Bool × List Nat)}
    (exponent : ExponentText cs value) (closing : Closing rest) :
    readExponent (cs ++ rest) = some (value, rest) := by
  unfold readExponent
  cases exponent with
  | none =>
    cases rest with
    | nil => rfl
    | cons c rest =>
      have other : ¬ (c = 'e' ∨ c = 'E') := by
        rcases closing c rfl with rfl | rfl | rfl <;> decide
      simp only [List.nil_append, if_neg other]
  | @signed sign digits one some decimal =>
    have read := readDigits_append decimal closing.noDigit
    match digits, some with
    | c :: digits, _ =>
      have digit := decimal c (List.mem_cons_self ..)
      have plus : c ≠ '+' := by rintro rfl; exact absurd digit (by decide)
      have minus : c ≠ '-' := by rintro rfl; exact absurd digit (by decide)
      simp only [List.mem_cons, List.not_mem_nil, or_false] at one
      rw [List.cons_append] at read
      rcases one with rfl | rfl | rfl <;> simp [plus, minus, read]

/-- The text of a numeral: a sign, digits, a fraction and an exponent. -/
inductive Written : List Char → NumeralText → Prop where
  | parts {whole fraction exponent : List Char} {digits : List Nat}
    {power : Option (Bool × List Nat)} (negative : Bool) (start : Whole whole)
    (middle : FractionText fraction digits) (last : ExponentText exponent power) :
    Written ((if negative then ['-'] else []) ++ (whole ++ (fraction ++ exponent)))
      ⟨negative, whole.map digitOf, digits, power⟩

namespace Written

variable {cs : List Char} {t : NumeralText}

/-- The text of a numeral is read to its end. -/
theorem read (written : Written cs t) {rest : List Char} (closing : Closing rest) :
    readNumeral (cs ++ rest) = some (t, rest) := by
  obtain @⟨_, _, _, _, _, negative, start, middle, last⟩ := written
  have stop := last.noDigit closing.noDigit
  simp only [List.append_assoc]
  rw [readNumeral_signed start, readUnsigned_whole start (middle.noDigit stop)]
  simp only [readFraction_written middle stop (last.no_point closing),
    readExponent_written last closing, Option.bind_some]

/-- A numeral starts with its sign or a digit. -/
theorem first (written : Written cs t) : ∃ c rest, cs = c :: rest ∧ (c = '-' ∨ c.isDigit) := by
  obtain @⟨whole, _, _, _, _, negative, start, _, _⟩ := written
  cases negative with
  | true => exact ⟨_, _, rfl, .inl rfl⟩
  | false =>
    obtain ⟨c, rest, rfl⟩ := List.exists_cons_of_ne_nil start.ne_nil
    exact ⟨c, _, rfl, .inr (start.decimal c (List.mem_cons_self ..))⟩

/-- No control stands in a numeral. -/
theorem le_of_mem (written : Written cs t) {c : Char} (inside : c ∈ cs) : 0x20 ≤ c.toNat := by
  have digit : ∀ {digits : List Char}, (∀ c ∈ digits, c.isDigit) → c ∈ digits → 0x20 ≤ c.toNat := by
    intro digits decimal inside
    have low := decimal c inside
    simp only [Char.isDigit, Bool.and_eq_true, decide_eq_true_eq] at low
    exact Nat.le_trans (by decide : 0x20 ≤ '0'.toNat) low.1
  obtain @⟨_, _, _, _, _, negative, start, middle, last⟩ := written
  simp only [List.mem_append] at inside
  rcases inside with sign | whole | fraction | exponent
  · cases negative <;> simp at sign
    subst sign
    decide
  · exact digit start.decimal whole
  · cases middle with
    | none => cases fraction
    | point some decimal =>
      rcases List.mem_cons.mp fraction with rfl | inside
      · decide
      · exact digit decimal inside
  · cases last with
    | none => cases exponent
    | signed one some decimal =>
      simp only [List.mem_cons, List.mem_append, List.not_mem_nil, or_false] at one exponent
      rcases exponent with rfl | sign | inside
      · decide
      · rcases one with rfl | rfl | rfl <;> simp at sign <;> subst sign <;> decide
      · exact digit decimal inside

end Written

/-! ### Integers -/

/-- The digits of a natural number are the digits before a point. -/
theorem whole_natDigits (n : Nat) : Whole (natDigits n) where
  ne_nil := natDigits_ne_nil n
  decimal _ := isDigit_of_mem_natDigits
  alone zero := by
    by_cases positive : 0 < n
    · exact absurd zero (head?_natDigits positive)
    · obtain rfl : n = 0 := by omega
      rfl

/-- The numeral that is written for an integer. -/
def NumeralText.ofInt (n : Int) : NumeralText :=
  ⟨n < 0, (natDigits n.natAbs).map digitOf, [], none⟩

/-- The text of an integer. -/
theorem written_intDigits (n : Int) : Written (intDigits n) (.ofInt n) := by
  have parts := Written.parts (n < 0) (whole_natDigits n.natAbs) .none .none
  have same : intDigits n =
      (if decide (n < 0) then ['-'] else []) ++ (natDigits n.natAbs ++ ([] ++ [])) := by
    by_cases below : n < 0 <;> simp [intDigits, below]
  rw [same]
  exact parts

/-- An integer is determined by its numeral. -/
theorem NumeralText.ofInt_injective {m n : Int}
    (same : NumeralText.ofInt m = NumeralText.ofInt n) : m = n := by
  have sign : decide (m < 0) = decide (n < 0) := congrArg NumeralText.negative same
  have magnitude := congrArg NumeralText.digitsValue (congrArg NumeralText.whole same)
  have left : digitsValue (NumeralText.ofInt m).whole = m.natAbs := digitsValue_natDigits _
  have right : digitsValue (NumeralText.ofInt n).whole = n.natAbs := digitsValue_natDigits _
  rw [left, right] at magnitude
  simp only [decide_eq_decide] at sign
  omega

/-- The numeral of an integer of one word has that value. -/
theorem value_ofInt {n : Int} (word : InWord n) :
    (NumeralText.ofInt n).value = @Numeral.integer n word := by
  obtain ⟨low, high⟩ := id word
  have half : (twoTo 63 : Int) = 9223372036854775808 := rfl
  have full : (twoTo 64 : Int) = 18446744073709551616 := rfl
  have digits : NumeralText.digitsValue (NumeralText.ofInt n).whole = n.natAbs :=
    digitsValue_natDigits n.natAbs
  have whole : (NumeralText.ofInt n).fraction = [] ∧ (NumeralText.ofInt n).exponent = none ∧
      n.natAbs < twoTo 64 := ⟨rfl, rfl, by omega⟩
  unfold NumeralText.value
  simp only [digits, dif_pos whole]
  by_cases below : n < 0
  · have magnitude : 0 < n.natAbs ∧ n.natAbs ≤ twoTo 63 := by omega
    have negative : (NumeralText.ofInt n).negative = true := decide_eq_true below
    have same : -(n.natAbs : Int) = n := by omega
    simp only [negative, dif_pos magnitude, same]
    rfl
  · have positive : (NumeralText.ofInt n).negative = false := decide_eq_false below
    have same : (n.natAbs : Int) = n := by omega
    simp only [positive, same]
    rfl

/-! ### Doubles -/

/-- A numeral without its sign. -/
inductive Unsigned : List Char → Prop where
  | parts {whole fraction exponent : List Char} {digits : List Nat}
    {power : Option (Bool × List Nat)} (start : Whole whole) (middle : FractionText fraction digits)
    (last : ExponentText exponent power) : Unsigned (whole ++ (fraction ++ exponent))

/-- Some of the digits before a point, from the first one on, could stand there alone. -/
theorem Whole.take {digits : List Char} (whole : Whole digits) {count : Nat} (some : 0 < count) :
    Whole (digits.take count) where
  ne_nil empty := by
    rcases List.take_eq_nil_iff.mp empty with none | nil
    · omega
    · exact whole.ne_nil nil
  decimal c inside := whole.decimal c (List.mem_of_mem_take inside)
  alone zero := by
    rw [List.head?_take, if_neg (by omega)] at zero
    rw [whole.alone zero, List.take_of_length_le (by simp; omega)]

/-- One digit could stand before a point alone. -/
theorem whole_take_one {digits : List Char} (some : digits ≠ [])
    (decimal : ∀ c ∈ digits, c.isDigit) : Whole (digits.take 1) := by
  obtain ⟨c, rest, rfl⟩ := List.exists_cons_of_ne_nil some
  refine ⟨by simp, fun d inside => decimal d (List.mem_of_mem_take inside), fun zero => ?_⟩
  simpa using zero

/-- Whatever is padded with zeros consists of digits. -/
theorem isDigit_of_mem_zeros {zeros n : Nat} {c : Char}
    (h : c ∈ List.replicate zeros '0' ++ natDigits n) : c.isDigit := by
  rcases List.mem_append.mp h with first | second
  · rw [List.eq_of_mem_replicate first]
    rfl
  · exact isDigit_of_mem_natDigits second

/-- Zeros behind the digits of a positive number. -/
theorem whole_zeros {n zeros : Nat} (positive : 0 < n ∨ zeros = 0) :
    Whole (natDigits n ++ List.replicate zeros '0') := by
  have digits := whole_natDigits n
  rcases positive with positive | rfl
  · refine ⟨by simp [digits.ne_nil], fun c inside => ?_, fun zero => ?_⟩
    · exact isDigit_of_mem_zeros (List.mem_append.mpr (List.mem_append.mp inside).symm)
    · rw [List.head?_append, List.head?_eq_some_head digits.ne_nil, Option.some_or,
        ← List.head?_eq_some_head digits.ne_nil] at zero
      exact absurd zero (head?_natDigits positive)
  · simpa using digits

/-- A number that is written out is a numeral. Zeros are put behind a positive number only. -/
theorem unsigned_writeOut {n : Nat} {exponent : Int} (positive : 0 < n ∨ exponent = 0) :
    Unsigned (Layout.json.writeOut (natDigits n) exponent) := by
  unfold writeOut
  split
  · next up =>
    have zero : FractionText ('.' :: ['0']) _ := .point (by simp) (by simp)
    have parts := Unsigned.parts (whole_zeros (positive.imp_right (congrArg Int.toNat))) zero .none
    simpa [Layout.json] using parts
  · next down =>
    let places := (-exponent).toNat
    let padded := List.replicate (places + 1 - (natDigits n).length) '0' ++ natDigits n
    have length : padded.length = places + 1 - (natDigits n).length + (natDigits n).length := by
      simp [padded]
    have whole : Whole (padded.take (padded.length - places)) := by
      by_cases short : (natDigits n).length ≤ places
      · have one : padded.length - places = 1 := by omega
        rw [one]
        exact whole_take_one (by simp [padded, natDigits_ne_nil]) fun _ => isDigit_of_mem_zeros
      · have none : places + 1 - (natDigits n).length = 0 := by omega
        simp only [padded, none, List.replicate_zero, List.nil_append]
        exact (whole_natDigits n).take (by omega)
    have some : padded.drop (padded.length - places) ≠ [] := by
      simp only [ne_eq, List.drop_eq_nil_iff]
      omega
    have decimal : ∀ c ∈ padded.drop (padded.length - places), c.isDigit := fun c inside =>
      isDigit_of_mem_zeros (List.mem_of_mem_drop inside)
    have parts := Unsigned.parts whole (.point some decimal) .none
    rw [List.append_nil] at parts
    exact parts

/-- A number with an exponent is a numeral. -/
theorem unsigned_writeScientific (n : Nat) (exponent : Int) :
    Unsigned (Layout.json.writeScientific (natDigits n) exponent) := by
  have start := (whole_natDigits n).take Nat.one_pos
  have power : ∃ value, ExponentText
      ('e' :: ((if 0 ≤ exponent then ['+'] else []) ++ intDigits exponent)) value := by
    have digits := whole_natDigits exponent.natAbs
    by_cases up : 0 ≤ exponent
    · rw [if_pos up, intDigits, if_neg (by omega)]
      exact ⟨_, .signed (by simp) digits.ne_nil digits.decimal⟩
    · rw [if_neg up, intDigits, if_pos (by omega)]
      exact ⟨_, @ExponentText.signed ['-'] _ (by simp) digits.ne_nil digits.decimal⟩
  obtain ⟨_, last⟩ := power
  unfold writeScientific
  cases behind : (natDigits n).drop 1 with
  | nil => simpa [Layout.json] using Unsigned.parts start .none last
  | cons c rest =>
    have decimal : ∀ d ∈ c :: rest, d.isDigit := fun d inside =>
      isDigit_of_mem_natDigits (List.mem_of_mem_drop (behind ▸ inside))
    simpa [Layout.json] using Unsigned.parts start (.point (by simp) decimal) last

/-- A double without its sign is written as a numeral without its sign. -/
theorem unsigned_writeMagnitude (x : Binary64) : Unsigned (Layout.json.writeMagnitude x) := by
  unfold writeMagnitude
  split
  · exact unsigned_writeOut (n := 0) (.inr rfl)
  · next nonzero =>
    have found : 0 < (x.shortest Layout.json.tie).digits ∨
        (x.shortest Layout.json.tie).exponent = 0 := by
      rcases x.shortest_ne_zero (by simpa using nonzero) Layout.json.tie with some | none
      · exact .inl (Nat.pos_of_ne_zero some)
      · exact .inr (by rw [none])
    simp only [show Layout.json.positional = some (-5, 16) from rfl]
    split
    · exact unsigned_writeOut found
    · exact unsigned_writeScientific _ _

/-- The text of a double is that of some numeral. -/
theorem written_writeFinite (x : Binary64) : ∃ t, Written (Layout.json.writeFinite x) t := by
  have magnitude := unsigned_writeMagnitude x
  unfold writeFinite
  generalize Layout.json.writeMagnitude x = written at magnitude
  cases magnitude with
  | parts start middle last => exact ⟨_, .parts x.isNegative start middle last⟩

end ReactiveKernel.Json
