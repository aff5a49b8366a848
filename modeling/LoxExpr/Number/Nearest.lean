import LoxExpr.Number.Binary64

/-!
# Reading decimal numerals

A numeral is a run of digits, optionally followed by a point and a second run.
Its exact value is a quotient of natural numbers, and it denotes the binary64
number nearest to that quotient.  A value halfway between two numbers goes to the
one with the even significand, and a value beyond the greatest finite number goes
to infinity.

Main results:

- Theorem `roundQuotient_mul`: a quotient without remainder is not rounded.
- Theorems `two_mul_roundQuotient_le` and `le_two_mul_roundQuotient`: rounding
  moves a quotient by at most one half.
-/

namespace LoxExpr

/-- The integer nearest to a quotient, a half going to the even neighbour. -/
def roundQuotient (numerator denominator : Nat) : Nat :=
  let quotient := numerator / denominator
  let twice := 2 * (numerator % denominator)
  if twice < denominator ∨ (twice = denominator ∧ quotient % 2 = 0) then quotient
  else quotient + 1

/-- A quotient that is whole stays as it is. -/
theorem roundQuotient_mul {denominator : Nat} (positive : 0 < denominator) (n : Nat) :
    roundQuotient (n * denominator) denominator = n := by
  simp [roundQuotient, Nat.mul_div_cancel _ positive, positive]

/-- Rounding adds at most one half. -/
theorem two_mul_roundQuotient_le {denominator : Nat} (positive : 0 < denominator)
    (numerator : Nat) :
    2 * (denominator * roundQuotient numerator denominator) ≤ 2 * numerator + denominator := by
  have division := Nat.div_add_mod numerator denominator
  have remainder := Nat.mod_lt numerator positive
  unfold roundQuotient
  simp only
  split
  · omega
  · rw [Nat.mul_add]
    omega

/-- Rounding takes away at most one half. -/
theorem le_two_mul_roundQuotient {denominator : Nat} (positive : 0 < denominator)
    (numerator : Nat) :
    2 * numerator ≤ 2 * (denominator * roundQuotient numerator denominator) + denominator := by
  have division := Nat.div_add_mod numerator denominator
  have remainder := Nat.mod_lt numerator positive
  unfold roundQuotient
  simp only
  split
  · omega
  · rw [Nat.mul_add]
    omega

namespace Binary64

/-- The number nearest to a quotient.  The scale leaves 53 bits of the quotient
before the point, or as many as there are when it is below the normal range. -/
def nearest (numerator denominator : Nat) : Binary64 :=
  let units := numerator <<< 1074
  let scale := (units / denominator).log2 - 52
  let significand := roundQuotient units (denominator <<< scale)
  ofMagnitude (min (scale * 0x10000000000000 + significand) infiniteMagnitude)

/-- The natural number that a run of ASCII digits denotes. -/
def digitsValue (digits : List Char) : Nat :=
  digits.foldl (fun value digit => 10 * value + (digit.toNat - '0'.toNat)) 0

/-- The number that a numeral denotes: digits, optionally followed by a point and
more digits. -/
def ofNumeral (text : List Char) : Binary64 :=
  let whole := text.takeWhile (· != '.')
  let fraction := (text.dropWhile (· != '.')).drop 1
  nearest (digitsValue (whole ++ fraction)) (Nat.pow 10 fraction.length)

end Binary64

end LoxExpr
