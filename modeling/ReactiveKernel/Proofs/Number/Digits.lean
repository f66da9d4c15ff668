import ReactiveKernel.Json.Numeral
import ReactiveKernel.Number.Layout

/-!
# Decimal digits of numbers

The digits of a natural number are decimal, stand for that number, and start with a zero only when
the number is zero. The shortest digits of a double that is not zero are a positive number:
the interval around such a double lies above zero, so the grid point that is written does too.
-/

namespace ReactiveKernel

namespace Layout

/-- Every number has a digit. -/
theorem natDigits_ne_nil (n : Nat) : natDigits n ≠ [] := Nat.toDigits_ne_nil

/-- The digits of a number are decimal digits. -/
theorem isDigit_of_mem_natDigits {n : Nat} {c : Char} (h : c ∈ natDigits n) : c.isDigit :=
  Nat.isDigit_of_mem_toDigits (by decide) (by decide) h

/-- The last digit of a number stands behind those of the number without it. -/
theorem natDigits_of_ge {n : Nat} (h : 10 ≤ n) :
    natDigits n = natDigits (n / 10) ++ [(n % 10).digitChar] :=
  Nat.toDigits_of_base_le (by decide) h

/-- A positive number does not start with a zero. -/
theorem head?_natDigits {n : Nat} (positive : 0 < n) : (natDigits n).head? ≠ some '0' := by
  induction n using Nat.strongRecOn with
  | ind n ih =>
    by_cases small : n < 10
    · rw [natDigits, Nat.toDigits_of_lt_base small]
      intro zero
      exact absurd (Nat.digitChar_eq_zero.mp (Option.some.inj zero)) (by omega)
    · have first := List.head?_eq_some_head (natDigits_ne_nil (n / 10))
      have above := ih (n / 10) (by omega) (by omega)
      rw [natDigits_of_ge (by omega), List.head?_append, first]
      rwa [first] at above

end Layout

namespace Json

/-- The digits of a number stand for it. -/
theorem digitsValue_natDigits (n : Nat) :
    NumeralText.digitsValue ((Layout.natDigits n).map fun c => c.toNat - '0'.toNat) = n := by
  have value : Nat.ofDigitChars 10 (Layout.natDigits n) 0 = n := Nat.ofDigitChars_ten_toDigits
  rw [Nat.ofDigitChars_eq_foldl] at value
  rw [NumeralText.digitsValue, List.foldl_map]
  simpa only [Nat.mul_comm] using value

end Json

namespace Binary64

/-- A double that is not zero has a positive significand. -/
theorem significand_pos {x : Binary64} (nonzero : x.isZero = false) : 0 < x.significand := by
  have fraction : twoTo 52 = 4503599627370496 := rfl
  have field : twoTo 11 = 2048 := rfl
  have sign : twoTo 63 = 9223372036854775808 := rfl
  simp only [isZero, sign, beq_eq_false_iff_ne] at nonzero
  simp only [significand, exponentField, fractionField, fraction, field]
  split <;> omega

/-- Powers of ten are positive. -/
theorem tenTo_pos (n : Nat) : 0 < tenTo n := Nat.pow_pos (by decide)

/-- Powers of two are positive. -/
theorem twoTo_pos (n : Nat) : 0 < twoTo n := Nat.pow_pos (by decide)

/-- Zero lies outside every interval that starts above it. -/
theorem Basin.holds_zero {b : Basin} (low : 0 < b.low) (grid : Int) : b.holds 0 grid = false := by
  have scale : 0 < b.low * (twoTo b.unit.toNat * tenTo (-grid).toNat) :=
    Nat.mul_pos low (Nat.mul_pos (twoTo_pos _) (tenTo_pos _))
  simp only [holds, Nat.zero_mul]
  split
  · rw [decide_eq_false (by omega), Bool.false_and]
  · rw [decide_eq_false (by omega), Bool.false_and]

/-- A grid point in an interval above zero is not zero. -/
theorem Basin.onGrid_ne_zero {b : Basin} (low : 0 < b.low) {tie : Tie} {grid : Int} {count : Nat}
    (hit : b.onGrid tie grid = some count) : count ≠ 0 := by
  have outside : ∀ down, b.holds down grid = true → down ≠ 0 := by
    rintro down inside rfl
    rw [holds_zero low] at inside
    cases inside
  unfold onGrid at hit
  simp only at hit
  split at hit
  · cases hit
  · next inside _ =>
    cases hit
    exact outside _ inside
  · cases hit
    exact Nat.succ_ne_zero _
  · next inside _ =>
    have below := outside _ inside
    split at hit
    · cases hit
      exact below
    · cases hit
      exact Nat.succ_ne_zero _
    · cases tie
      · cases hit
        exact Nat.succ_ne_zero _
      · cases hit
        omega

/-- A decimal in a basin above zero is not zero. -/
theorem Basin.firstHit_ne_zero {b : Basin} (low : 0 < b.low) {tie : Tie} {more : Nat} {grid : Int}
    {d : Decimal} (hit : b.firstHit tie more grid = some d) : d.digits ≠ 0 := by
  induction more generalizing grid with
  | zero => cases hit
  | succ more ih =>
    unfold firstHit at hit
    split at hit
    · next found =>
      cases hit
      exact onGrid_ne_zero low found
    · exact ih hit

/-- A number stays other than zero when zeros at its end are dropped. -/
theorem dropZeros_ne_zero {fuel : Nat} {d : Decimal} (h : d.digits ≠ 0) :
    (dropZeros fuel d).digits ≠ 0 := by
  induction fuel generalizing d with
  | zero => exact h
  | succ fuel ih =>
    unfold dropZeros
    split
    · next final =>
      refine ih ?_
      show d.digits / 10 ≠ 0
      omega
    · exact h

/-- The interval of a double that is not zero lies above zero. -/
theorem basin_low_pos {x : Binary64} (nonzero : x.isZero = false) : 0 < x.basin.low := by
  have positive := significand_pos nonzero
  simp only [basin]
  split <;> omega

/-- The shortest digits of a double that is not zero are not zero, unless none are found. -/
theorem shortest_ne_zero {x : Binary64} (nonzero : x.isZero = false) (tie : Tie) :
    (x.shortest tie).digits ≠ 0 ∨ x.shortest tie = ⟨0, 0⟩ := by
  unfold shortest
  simp only
  split
  · next found =>
    exact .inl (dropZeros_ne_zero (Basin.firstHit_ne_zero (basin_low_pos nonzero) found))
  · exact .inr rfl

end Binary64

end ReactiveKernel
