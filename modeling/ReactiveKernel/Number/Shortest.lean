import ReactiveKernel.Number.Binary64

/-!
# The fewest decimal digits that read back

The reals that round to a finite double form an interval around it. Its shortest decimal is
the point of the coarsest decimal grid that falls into the interval, and the nearer one where
the grid offers two. What happens when both are equally near is left to the caller.
-/

namespace ReactiveKernel

/-- A decimal number `digits * 10 ^ exponent`. -/
structure Decimal where
  /-- The digits, read as one number. -/
  digits : Nat
  /-- The place value of the last digit. -/
  exponent : Int
  deriving DecidableEq

/-- Which neighbour is taken when two are equally near. -/
inductive Tie where
  | up
  | even
  deriving DecidableEq

namespace Binary64

/-- The interval of a positive finite number, with all lengths in one common unit. -/
structure Basin where
  /-- The value itself. -/
  value : Nat
  /-- Lower end of the interval. -/
  low : Nat
  /-- Upper end of the interval. -/
  high : Nat
  /-- Whether the ends belong to the interval. -/
  closed : Bool
  /-- Binary logarithm of the unit. -/
  unit : Int

/-- The reals that round to a positive finite number: half a step on either side, and a quarter
below a power of two, where the steps below are half as long. -/
def basin (x : Binary64) : Basin :=
  let m := x.significand
  let belowPower : Bool := m == twoTo 52 && decide (x.power > -1074)
  { value := 4 * m
    low := 4 * m - (if belowPower then 1 else 2)
    high := 4 * m + 2
    closed := m % 2 == 0
    unit := x.power - 2 }

/-- Whether `count * 10 ^ grid` lies in the interval. -/
def Basin.holds (b : Basin) (count : Nat) (grid : Int) : Bool :=
  let left := count * tenTo grid.toNat * twoTo (-b.unit).toNat
  let scale := twoTo b.unit.toNat * tenTo (-grid).toNat
  if b.closed then b.low * scale ≤ left && left ≤ b.high * scale
  else b.low * scale < left && left < b.high * scale

/-- The multiple of `10 ^ grid` just below the value, and twice the remainder compared with
the step: less than the step means that the lower multiple is nearer. -/
def Basin.below (b : Basin) (grid : Int) : Nat × Ordering :=
  let num := b.value * twoTo b.unit.toNat * tenTo (-grid).toNat
  let den := twoTo (-b.unit).toNat * tenTo grid.toNat
  (num / den, compare (2 * (num % den)) den)

/-- The grid point to write on the grid `10 ^ grid`, if one lies in the interval. -/
def Basin.onGrid (b : Basin) (tie : Tie) (grid : Int) : Option Nat :=
  let (down, nearer) := b.below grid
  match b.holds down grid, b.holds (down + 1) grid with
  | false, false => none
  | true, false => some down
  | false, true => some (down + 1)
  | true, true =>
    match nearer with
    | .lt => some down
    | .gt => some (down + 1)
    | .eq =>
      match tie with
      | .up => some (down + 1)
      | .even => some (down + down % 2)

/-- The first hit going from coarse grids to fine ones. -/
def Basin.firstHit (b : Basin) (tie : Tie) : Nat → Int → Option Decimal
  | 0, _ => none
  | more + 1, grid =>
    match b.onGrid tie grid with
    | some digits => some ⟨digits, grid⟩
    | none => b.firstHit tie more (grid - 1)

/-- Drop final zeros. At most `fuel` of them are looked for. -/
def dropZeros : Nat → Decimal → Decimal
  | 0, d => d
  | fuel + 1, d =>
    if d.digits % 10 = 0 ∧ d.digits ≠ 0 then dropZeros fuel ⟨d.digits / 10, d.exponent + 1⟩
    else d

/-- An exponent whose power of ten is above `value * 2 ^ unit` and by less than a thousand times:
a binary digit is worth a little more than three tenths of a decimal one. -/
def Basin.ceilingExponent (b : Basin) : Int :=
  (((b.value.log2 : Int) + 1 + b.unit) * 30103).fdiv 100000 + 1

/-- The shortest decimal that reads back as a nonzero finite number, its sign aside. Twenty grids
reach from above the leading digit to below the seventeenth. -/
def shortest (x : Binary64) (tie : Tie) : Decimal :=
  let b := x.basin
  match b.firstHit tie 20 b.ceilingExponent with
  | some d => dropZeros 20 d
  | none => ⟨0, 0⟩

end Binary64

end ReactiveKernel
