import ReactiveKernel.Number.Shortest

/-!
# Written forms of floating-point numbers

A `Layout` says how shortest digits become text: when a number is written with an exponent,
whether a whole number keeps its fraction, and which digits win a tie. Each output of the
library names its layout.
-/

namespace ReactiveKernel

/-- The choices of one written form of numbers. -/
structure Layout where
  /-- Which digits are taken when two candidates are equally near. -/
  tie : Tie
  /-- Scientific exponents written without an exponent: from the first up to, not including, the
  second. With none every number is written out. -/
  positional : Option (Int × Int)
  /-- Whether a whole number written out ends in a zero fraction. -/
  wholeFraction : Bool
  /-- Whether a positive exponent shows its sign. -/
  exponentPlus : Bool
  deriving DecidableEq

namespace Layout

/-- Numbers shown to a reader are always written out, a whole one without a fraction. -/
def plain : Layout := ⟨.up, none, false, false⟩

/-- Numbers inside constructor notation keep a fraction, and take an exponent below `1e-4` and
from `1e16`. -/
def notated : Layout := ⟨.up, some (-4, 16), true, false⟩

/-- JSON numbers keep a fraction, take an exponent below `1e-5` and from `1e16`, and show the
sign of the exponent. -/
def json : Layout := ⟨.even, some (-5, 16), true, true⟩

/-- The digits of a natural number. -/
def natDigits (n : Nat) : List Char := Nat.toDigits 10 n

/-- The digits of an integer after its sign. -/
def intDigits (n : Int) : List Char :=
  if n < 0 then '-' :: natDigits n.natAbs else natDigits n.natAbs

/-- Digits times a power of ten without an exponent. -/
def writeOut (layout : Layout) (digits : List Char) (exponent : Int) : List Char :=
  if 0 ≤ exponent then
    digits ++ List.replicate exponent.toNat '0' ++ (if layout.wholeFraction then ['.', '0'] else [])
  else
    let places := (-exponent).toNat
    let padded := List.replicate (places + 1 - digits.length) '0' ++ digits
    padded.take (padded.length - places) ++ '.' :: padded.drop (padded.length - places)

/-- Digits with a point after the first and an exponent. -/
def writeScientific (layout : Layout) (digits : List Char) (exponent : Int) : List Char :=
  let fraction := match digits.drop 1 with
    | [] => []
    | rest => '.' :: rest
  digits.take 1 ++ fraction ++
    'e' :: (if layout.exponentPlus ∧ 0 ≤ exponent then ['+'] else []) ++ intDigits exponent

/-- Text of a finite number without its sign. -/
def writeMagnitude (layout : Layout) (x : Binary64) : List Char :=
  if x.isZero then layout.writeOut ['0'] 0 else
    let d := x.shortest layout.tie
    let digits := natDigits d.digits
    let scientific := d.exponent + digits.length - 1
    let out := match layout.positional with
      | none => true
      | some (low, high) => decide (low ≤ scientific ∧ scientific < high)
    if out then layout.writeOut digits d.exponent else layout.writeScientific digits scientific

/-- Text of a finite number. -/
def writeFinite (layout : Layout) (x : Binary64) : List Char :=
  (if x.isNegative then ['-'] else []) ++ layout.writeMagnitude x

/-- Text of any number, with names for the infinities and for NaN. -/
def write (layout : Layout) (x : Binary64) : List Char :=
  if x.isNaN then ['N', 'a', 'N']
  else if x.isInfinite then (if x.isNegative then ['-'] else []) ++ ['i', 'n', 'f']
  else layout.writeFinite x

end Layout

end ReactiveKernel
