/-!
# Binary floating point in exact arithmetic

A `Binary64` is an IEEE 754 double held as its 64 bits. A finite one is a significand times
a power of two; products and quotients are taken exactly on natural numbers and rounded
once, to the nearest double, a half going to the even significand.
-/

namespace ReactiveKernel

/-- A power of two. -/
def twoTo (n : Nat) : Nat := Nat.pow 2 n

/-- A power of ten. -/
def tenTo (n : Nat) : Nat := Nat.pow 10 n

/-- An IEEE 754 binary64 number as its bit pattern. -/
structure Binary64 where
  /-- Sign, eleven exponent bits and fifty-two fraction bits. -/
  bits : UInt64
  deriving DecidableEq, Inhabited

namespace Binary64

/-- Exponent field of a bit pattern. -/
def exponentField (x : Binary64) : Nat := x.bits.toNat / twoTo 52 % twoTo 11

/-- Fraction field of a bit pattern. -/
def fractionField (x : Binary64) : Nat := x.bits.toNat % twoTo 52

/-- The sign bit, set also on a negative zero. -/
def isNegative (x : Binary64) : Bool := decide (twoTo 63 ≤ x.bits.toNat)

/-- Not a number. -/
def isNaN (x : Binary64) : Bool := x.exponentField == 2047 && x.fractionField != 0

/-- An infinity of either sign. -/
def isInfinite (x : Binary64) : Bool := x.exponentField == 2047 && x.fractionField == 0

/-- Neither an infinity nor a NaN. -/
def isFinite (x : Binary64) : Bool := x.exponentField != 2047

/-- A zero of either sign. -/
def isZero (x : Binary64) : Bool := x.bits.toNat % twoTo 63 == 0

/-- The integral significand `m` of a finite number `m * 2 ^ q`. -/
def significand (x : Binary64) : Nat :=
  if x.exponentField = 0 then x.fractionField else twoTo 52 + x.fractionField

/-- The power `q` of a finite number `m * 2 ^ q`. -/
def power (x : Binary64) : Int := (Nat.max x.exponentField 1 : Int) - 1075

/-- Positive zero. -/
def zero : Binary64 := ⟨0⟩

/-- Positive infinity. -/
def infinity : Binary64 := ⟨0x7ff0000000000000⟩

/-- Equality as numbers: the two zeros are equal and a NaN equals nothing. -/
def ieeeEq (x y : Binary64) : Bool :=
  !x.isNaN && !y.isNaN && (x.bits == y.bits || x.isZero && y.isZero)

/-- The number with its sign bit turned over. -/
def neg (x : Binary64) : Binary64 := ⟨x.bits ^^^ 0x8000000000000000⟩

/-- The integer nearest to `num / den`, a half going to the even neighbour. -/
def roundHalfEven (num den : Nat) : Nat :=
  let q := num / den
  let r := num % den
  if 2 * r < den then q
  else if den < 2 * r then q + 1
  else q + q % 2

/-- Multiply a fraction by a power of two. -/
def scaleFraction (num den : Nat) (power : Int) : Nat × Nat :=
  (num * twoTo power.toNat, den * twoTo (-power).toNat)

/-- The floor of the binary logarithm of `num / den`, both positive. -/
def floorLog2 (num den : Nat) : Int :=
  let guess : Int := (num.log2 : Int) - den.log2
  let (n, d) := scaleFraction num den (-guess)
  if n < d then guess - 1 else guess

/-- The bits of the nonnegative double nearest to `num / den`. A significand that rounds up to
the next power of two carries into the exponent field by itself. -/
def roundedBits (num den : Nat) : Nat :=
  if num = 0 then 0 else
    let q : Int := max (floorLog2 num den - 52) (-1074)
    let (n, d) := scaleFraction num den (-q)
    min ((q + 1074).toNat * twoTo 52 + roundHalfEven n d) (2047 * twoTo 52)

/-- The double nearest to a fraction of the given sign, infinite when out of range. -/
def ofFraction (negative : Bool) (num den : Nat) : Binary64 :=
  ⟨UInt64.ofNat ((if negative then twoTo 63 else 0) + roundedBits num den)⟩

/-- The double nearest to an integer. -/
def ofInt (n : Int) : Binary64 := ofFraction (n < 0) n.natAbs 1

/-- The rounded product of two finite numbers. -/
def mul (x y : Binary64) : Binary64 :=
  let (n, d) := scaleFraction (x.significand * y.significand) 1 (x.power + y.power)
  ofFraction (x.isNegative != y.isNegative) n d

/-- The rounded quotient of two finite numbers, the divisor not zero. -/
def div (x y : Binary64) : Binary64 :=
  let (n, d) := scaleFraction x.significand y.significand (x.power - y.power)
  ofFraction (x.isNegative != y.isNegative) n d

/-- The double nearest to a power of ten. -/
def ofTenTo (exponent : Nat) : Binary64 := ofFraction false (tenTo exponent) 1

end Binary64

end ReactiveKernel
