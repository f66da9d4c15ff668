import ReactiveKernel.Number.Binary64

/-!
# Numerals of JSON

A numeral is an integer if it is written as one and fits a 64-bit word, unsigned, or signed when
negative; otherwise it is a double. The double is computed from at most one word of leading
digits, scaled by one power of ten at a time, so it can differ from the nearest one.
-/

namespace ReactiveKernel.Json

/-- The parts of a written numeral. -/
structure NumeralText where
  /-- Whether it starts with a minus sign. -/
  negative : Bool
  /-- Digits before the point, at least one. -/
  whole : List Nat
  /-- Digits after the point; none when there is no point. -/
  fraction : List Nat
  /-- Whether the exponent is negative, and its digits. -/
  exponent : Option (Bool × List Nat)
  deriving DecidableEq

/-- The integers of one word, signed below zero and unsigned above. -/
def InWord (n : Int) : Prop := -(twoTo 63 : Int) ≤ n ∧ n < twoTo 64

/-- A natural number fits into a word if it is below the number of unsigned ones. -/
theorem inWord_natCast {n : Nat} (word : n < twoTo 64) : InWord n := by
  unfold InWord
  omega

/-- A negative number fits into a word if its magnitude is at most half the number of words. -/
theorem inWord_neg {n : Nat} (word : n ≤ twoTo 63) : InWord (-n) := by
  have half : (twoTo 63 : Int) = 9223372036854775808 := rfl
  have full : (twoTo 64 : Int) = 18446744073709551616 := rfl
  unfold InWord
  omega

/-- The value of a numeral. -/
inductive Numeral where
  /-- An integer of one word. -/
  | integer (n : Int) {word : InWord n}
  /-- A double; none when the numeral is out of range. -/
  | float (x : Option Binary64)
  deriving DecidableEq

namespace NumeralText

/-- Take digits into a significand while it fits a word; the rest is returned. -/
def absorb (significand : Nat) : List Nat → Nat × List Nat
  | [] => (significand, [])
  | d :: rest =>
    if significand * 10 + d < twoTo 64 then absorb (significand * 10 + d) rest
    else (significand, d :: rest)

/-- A number divided by a power of ten in steps of at most `10 ^ 308`. Two full steps take any
word to zero. -/
def scaleDown : Nat → Binary64 → Nat → Binary64
  | 0, x, _ => x
  | steps + 1, x, exponent =>
    if exponent ≤ 308 then x.div (.ofTenTo exponent)
    else if x.isZero then x
    else scaleDown steps (x.div (.ofTenTo 308)) (exponent - 308)

/-- A word scaled by a power of ten, unless the result is out of range. -/
def scaled (significand : Nat) (exponent : Int) : Option Binary64 :=
  let x := Binary64.ofInt significand
  if exponent < 0 then some (scaleDown 3 x exponent.natAbs)
  else if exponent ≤ 308 then
    let y := x.mul (.ofTenTo exponent.natAbs)
    if y.isInfinite then none else some y
  else if x.isZero then some x
  else none

/-- The number written by decimal digits. -/
def digitsValue (digits : List Nat) : Nat := digits.foldl (fun n d => n * 10 + d) 0

/-- Keep an exponent within a signed 32-bit word. -/
def clampExponent (e : Int) : Int := max (-twoTo 31) (min e (twoTo 31 - 1))

/-- The magnitude as a double. An exponent of more than 32 bits stands for zero or for an
overflow. -/
def magnitude (t : NumeralText) : Option Binary64 :=
  let (word, dropped) := absorb 0 t.whole
  let (word, ignored) := absorb word t.fraction
  let point : Int := (dropped.length : Int) - (t.fraction.length - ignored.length : Nat)
  match t.exponent with
  | none => scaled word point
  | some (below, digits) =>
    let e := digitsValue digits
    if twoTo 31 ≤ e then
      if word ≠ 0 ∧ !below then none else some .zero
    else scaled word (clampExponent (if below then point - e else point + e))

/-- The double of a numeral, with its sign. -/
def toFloat (t : NumeralText) : Option Binary64 :=
  t.magnitude.map fun x => if t.negative then x.neg else x

/-- The value of a numeral. A negative zero is a double. -/
def value (t : NumeralText) : Numeral :=
  let n := digitsValue t.whole
  if whole : t.fraction = [] ∧ t.exponent = none ∧ n < twoTo 64 then
    if !t.negative then @Numeral.integer n (inWord_natCast whole.2.2)
    else if signed : 0 < n ∧ n ≤ twoTo 63 then @Numeral.integer (-n) (inWord_neg signed.2)
    else .float t.toFloat
  else .float t.toFloat

end NumeralText

end ReactiveKernel.Json
