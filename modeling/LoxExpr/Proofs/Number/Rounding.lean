import LoxExpr.Number.Nearest
import LoxExpr.Number.Shortest
import Mathlib.Tactic.Ring

/-!
# Rounding into a range

Every decimal in the range of a number is rounded to the number.  At the scale of the number
it is near to the significand.  Only just below a power of two is the scale one less, and
there rounding carries into the next place.  The search for a shortest decimal stays in the
range, so what it finds is rounded to the number it was searched for.

Main results:

- Theorem `Near.roundQuotient_eq`: a quotient is rounded to the integer that is near to it.
- Theorem `nearest_eq`: a quotient that a number covers is rounded to the number.
- Theorem `covers_of_contains`: a decimal in the range of a number is covered by it.
- Theorem `contains_shortest`: the shortest decimal is in the range.
-/

namespace LoxExpr

/-! ## Rounding to a known integer -/

/-- Whether an integer is the one that a quotient is rounded to: it is no farther than one
half, and even if it is just as far. -/
structure Near (numerator denominator n : Nat) : Prop where
  lower : 2 * (denominator * n) ≤ 2 * numerator + denominator
  upper : 2 * numerator ≤ 2 * (denominator * n) + denominator
  tie : 2 * (denominator * n) = 2 * numerator + denominator ∨
    2 * numerator = 2 * (denominator * n) + denominator → n % 2 = 0

/-- A quotient is rounded to the integer that is near to it. -/
theorem Near.roundQuotient_eq {numerator denominator n : Nat}
    (near : Near numerator denominator n) (positive : 0 < denominator) :
    roundQuotient numerator denominator = n := by
  have division := Nat.div_add_mod numerator denominator
  have remainder := Nat.mod_lt numerator positive
  rcases near with ⟨lower, upper, tie⟩
  unfold roundQuotient
  generalize numerator / denominator = q at *
  generalize numerator % denominator = r at *
  have least : q ≤ n := by
    by_contra less
    have apart := Nat.mul_le_mul_left denominator (Nat.succ_le_of_lt (Nat.lt_of_not_le less))
    rw [Nat.mul_succ] at apart
    omega
  have most : n ≤ q + 1 := by
    by_contra more
    have apart := Nat.mul_le_mul_left denominator (Nat.succ_le_of_lt (Nat.lt_of_not_le more))
    rw [Nat.mul_succ, Nat.mul_succ] at apart
    omega
  obtain rfl | rfl : n = q ∨ n = q + 1 := by omega
  · rw [if_pos (by omega)]
  · rw [Nat.mul_succ] at lower upper tie
    rw [if_neg (by omega)]

/-- A quotient near to a significand of 54 bits, but below it, has 53 bits. -/
theorem Near.bounds {units place : Nat} (near : Near units place 0x20000000000000)
    (below : units < (2 * place) * 0x10000000000000) :
    units < place * 0x20000000000000 ∧ place * 0x10000000000000 ≤ units := by
  have lower := near.lower
  omega

/-! ## Ranges -/

namespace RoundingRange

variable {range : RoundingRange}

/-- What is in a range is strictly inside it, or the range includes its ends. -/
theorem cases_of_contains {quarters : Nat} (inside : range.contains quarters = true) :
    (range.closed = true ∧ range.lower ≤ quarters ∧ quarters ≤ range.upper) ∨
      (range.lower < quarters ∧ quarters < range.upper) := by
  unfold contains at inside
  split at inside
  next closed => exact .inl ⟨closed, by simpa using inside⟩
  next => exact .inr (by simpa using inside)

/-- The point that is found on a grid is in the range. -/
theorem contains_of_onGrid? {power coefficient : Nat}
    (found : range.onGrid? power = some coefficient) :
    range.contains (coefficient * (4 * Nat.pow 10 power)) = true := by
  unfold onGrid? at found
  simp only at found
  split at found
  next => contradiction
  next below _ => rwa [← Option.some.inj found]
  next _ above => rwa [← Option.some.inj found]
  next below above =>
    rw [← Option.some.inj found]
    split
    · exact below
    · exact above

/-- The decimal on the coarsest grid is in the range, if the number is a point of the last
grid. -/
theorem contains_coarsest (inside : range.contains range.point = true)
    (whole : range.point % 4 = 0) (power : Nat) :
    ∃ p : Nat, (range.coarsest power).exponent = p - (range.places : Int) ∧
      range.contains ((range.coarsest power).coefficient * (4 * Nat.pow 10 p)) = true := by
  induction power with
  | zero =>
    refine ⟨0, by simp [coarsest], ?_⟩
    have point : range.point / 4 * 4 = range.point :=
      Nat.div_mul_cancel (Nat.dvd_of_mod_eq_zero whole)
    simpa [coarsest, point] using inside
  | succ power ih =>
    rw [coarsest]
    cases found : range.onGrid? (power + 1) with
    | none => exact ih
    | some coefficient => exact ⟨power + 1, rfl, contains_of_onGrid? found⟩

end RoundingRange

namespace Binary64

/-! ## Rounding into a range -/

section

variable {x : Binary64} {units denominator : Nat}

/-- The denominator at a scale is positive. -/
theorem shiftLeft_pos (positive : 0 < denominator) (scale : Nat) : 0 < denominator <<< scale := by
  rw [Nat.shiftLeft_eq]
  exact Nat.mul_pos positive (Nat.two_pow_pos _)

/-- A number without a sign is given by its word. -/
theorem ofMagnitude_magnitude (unsigned : x.isNegative = false) : ofMagnitude x.magnitude = x := by
  have small : x.bits.toNat < 0x8000000000000000 := by simpa [isNegative] using unsigned
  rw [ofMagnitude, magnitude, Nat.mod_eq_of_lt small, UInt64.ofNat_toNat]

/-- A finite number other than zero has a significand. -/
theorem significand_pos (nonzero : x.isZero = false) : 0 < x.significand := by
  have hne : x.magnitude ≠ 0 := by simpa [isZero] using nonzero
  unfold significand fractionField exponentField
  split <;> omega

/-- A number with a scale is normal. -/
theorem le_significand (scaled : 0 < x.scale) : 0x10000000000000 ≤ x.significand := by
  unfold significand
  unfold scale at scaled
  split <;> omega

/-- How far the range of a number reaches down, in quarters of its last place. -/
def gapBelow (x : Binary64) : Nat :=
  if x.isBinadeStart then 1 else 2

/-- The range reaches down by one quarter or by two. -/
theorem gapBelow_le (x : Binary64) : x.gapBelow ≤ 2 := by
  unfold gapBelow
  split <;> omega

/-- Below the least significand of a scale lies a smaller scale. -/
theorem gapBelow_eq_one (scaled : 0 < x.scale) (least : x.significand = 0x10000000000000) :
    x.gapBelow = 1 := by
  have start : x.isBinadeStart = true := by
    unfold significand at least
    unfold scale at scaled
    split at least <;> simp [isBinadeStart] <;> omega
  rw [gapBelow, if_pos start]

/-- Whether a quotient, in units of the least positive number, is in the range of a number.
The ends of the range are if they are ties that go to the number. -/
structure Covers (x : Binary64) (units denominator : Nat) : Prop where
  lower : (4 * x.significand - x.gapBelow) * (denominator <<< x.scale) ≤ 4 * units
  upper : 4 * units ≤ (4 * x.significand + 2) * (denominator <<< x.scale)
  tie : (4 * x.significand - x.gapBelow) * (denominator <<< x.scale) = 4 * units ∨
    4 * units = (4 * x.significand + 2) * (denominator <<< x.scale) → x.significand % 2 = 0

/-- At its own scale a number is near to the quotients in its range. -/
theorem Covers.near (covers : x.Covers units denominator) (positive : 0 < denominator)
    (significand : 0 < x.significand) :
    Near units (denominator <<< x.scale) x.significand := by
  have gap := x.gapBelow_le
  have hpos := shiftLeft_pos positive x.scale
  rcases covers with ⟨lower, upper, tie⟩
  generalize denominator <<< x.scale = place at *
  have reach : (4 * x.significand - 2) * place ≤ (4 * x.significand - x.gapBelow) * place :=
    Nat.mul_le_mul_right _ (by omega)
  have half : (4 * x.significand - 2) * place + 2 * place = 4 * (place * x.significand) := by
    rw [← Nat.add_mul, Nat.sub_add_cancel (by omega)]
    ring
  have above : (4 * x.significand + 2) * place = 4 * (place * x.significand) + 2 * place := by
    ring
  constructor <;> omega

/-- Only the range of the least significand of a scale reaches below the scale. -/
theorem Covers.significand_eq (covers : x.Covers units denominator) (scaled : 0 < x.scale)
    (below : units < (denominator <<< x.scale) * 0x10000000000000) :
    x.significand = 0x10000000000000 := by
  have least := le_significand scaled
  have gap := x.gapBelow_le
  have lower := covers.lower
  generalize denominator <<< x.scale = place at *
  by_contra other
  have reach : 0x40000000000000 * place ≤ (4 * x.significand - x.gapBelow) * place :=
    Nat.mul_le_mul_right _ (by omega)
  omega

/-- What the range of a number covers below its scale is near to the least significand
beyond the smaller scale. -/
theorem Covers.near_carry (covers : x.Covers units denominator) {scale : Nat}
    (scaled : x.scale = scale + 1)
    (below : units < (denominator <<< x.scale) * 0x10000000000000) :
    Near units (denominator <<< scale) 0x20000000000000 := by
  have least := covers.significand_eq (by omega) below
  have lower := covers.lower
  rw [gapBelow_eq_one (by omega) least, least] at lower
  have twice : denominator <<< x.scale = 2 * (denominator <<< scale) := by
    rw [scaled, Nat.shiftLeft_succ]
  rw [twice] at below lower
  constructor <;> omega

/-- The scale that rounding chooses is the greatest at which 53 bits are left. -/
theorem log2_sub_eq {units denominator scale : Nat} (positive : 0 < denominator)
    (below : units < (denominator <<< scale) * 0x20000000000000)
    (above : scale = 0 ∨ (denominator <<< scale) * 0x10000000000000 ≤ units) :
    (units / denominator).log2 - 52 = scale := by
  rw [Nat.shiftLeft_eq] at below above
  have upper : units / denominator < 2 ^ (scale + 53) := by
    rw [Nat.div_lt_iff_lt_mul positive, Nat.pow_add]
    calc
      units < denominator * 2 ^ scale * 0x20000000000000 := below
      _ = 2 ^ scale * 2 ^ 53 * denominator := by ring
  have most : (units / denominator).log2 < scale + 53 := by
    by_cases zero : units / denominator = 0
    · simp [zero]
    · exact (Nat.log2_lt zero).2 upper
  rcases above with rfl | above
  · omega
  · have lower : 2 ^ (scale + 52) ≤ units / denominator := by
      rw [Nat.le_div_iff_mul_le positive, Nat.pow_add]
      calc
        2 ^ scale * 2 ^ 52 * denominator = denominator * 2 ^ scale * 0x10000000000000 := by ring
        _ ≤ units := above
    have nonzero : units / denominator ≠ 0 := by
      have := Nat.two_pow_pos (scale + 52)
      omega
    have least := (Nat.le_log2 nonzero).2 lower
    omega

/-- A quotient near to an integer is rounded to the number with that significand, if the
scale is the one that rounding chooses. -/
theorem nearest_eq_of_near {numerator denominator scale significand : Nat}
    (positive : 0 < denominator) (unsigned : x.isNegative = false)
    (finite : x.magnitude < infiniteMagnitude)
    (chosen : ((numerator <<< 1074) / denominator).log2 - 52 = scale)
    (near : Near (numerator <<< 1074) (denominator <<< scale) significand)
    (same : scale * 0x10000000000000 + significand = x.magnitude) :
    nearest numerator denominator = x := by
  unfold nearest
  simp only [chosen, near.roundQuotient_eq (shiftLeft_pos positive scale), same]
  rw [Nat.min_eq_left (Nat.le_of_lt finite), ofMagnitude_magnitude unsigned]

/-- A quotient in the range of a number is rounded to the number. -/
theorem nearest_eq {numerator denominator : Nat} (positive : 0 < denominator)
    (unsigned : x.isNegative = false) (finite : x.magnitude < infiniteMagnitude)
    (significand : 0 < x.significand) (covers : x.Covers (numerator <<< 1074) denominator) :
    nearest numerator denominator = x := by
  have parts := x.magnitude_eq
  have most := x.significand_lt
  have near := covers.near positive significand
  have hpos := shiftLeft_pos positive x.scale
  have below : numerator <<< 1074 < (denominator <<< x.scale) * 0x20000000000000 := by
    have bound := Nat.mul_le_mul_left (denominator <<< x.scale) (Nat.le_of_lt_succ most)
    have upper := near.upper
    omega
  by_cases above : x.scale = 0 ∨
      (denominator <<< x.scale) * 0x10000000000000 ≤ numerator <<< 1074
  · exact nearest_eq_of_near positive unsigned finite (log2_sub_eq positive below above) near
      parts.symm
  -- Below a power of two the scale is one less, and rounding carries into the next place.
  · rcases not_or.1 above with ⟨scaled, less⟩
    rcases Nat.exists_eq_succ_of_ne_zero scaled with ⟨scale, succ⟩
    have carry := covers.near_carry succ (Nat.lt_of_not_le less)
    have least := covers.significand_eq (by omega) (Nat.lt_of_not_le less)
    have twice : denominator <<< x.scale = 2 * (denominator <<< scale) := by
      rw [succ, Nat.shiftLeft_succ]
    rw [twice] at less
    rcases carry.bounds (Nat.lt_of_not_le less) with ⟨upper, lower⟩
    exact nearest_eq_of_near positive unsigned finite (log2_sub_eq positive upper (.inr lower))
      carry (by omega)

end

/-! ## Decimals in a range -/

/-- Quantities that have the same quotient with two scales are ordered in the same way. -/
theorem le_iff_of_scaled {a b a' b' scale scale' : Nat} (positive : 0 < scale)
    (positive' : 0 < scale') (first : a * scale = a' * scale') (second : b * scale = b' * scale') :
    a ≤ b ↔ a' ≤ b' := by
  rw [← Nat.mul_le_mul_right_iff positive, first, second, Nat.mul_le_mul_right_iff positive']

/-- A power of two is a whole number of decimal units, if there are enough decimal places. -/
theorem two_pow_mul_ten_pow (scale bits : Nat) :
    2 ^ scale * 10 ^ (bits - scale) =
      Nat.pow 5 (bits - scale) <<< (scale - bits) * 2 ^ bits := by
  rw [Nat.shiftLeft_eq, Nat.pow_eq]
  rcases Nat.le_total scale bits with fewer | more
  · rcases Nat.exists_eq_add_of_le fewer with ⟨places, rfl⟩
    rw [Nat.add_sub_cancel_left, Nat.sub_eq_zero_of_le fewer, show 10 = 2 * 5 from rfl,
      Nat.mul_pow]
    ring
  · rcases Nat.exists_eq_add_of_le more with ⟨more, rfl⟩
    rw [Nat.add_sub_cancel_left, Nat.sub_eq_zero_of_le (Nat.le_add_right _ _)]
    ring

/-- The range of a number in decimal units, compared with its range at its scale. -/
theorem scaled_bound (count denominator scale bits : Nat) :
    count * (denominator <<< scale) * 10 ^ (bits - scale) =
      count * (Nat.pow 5 (bits - scale) <<< (scale - bits)) * (denominator * 2 ^ bits) := by
  rw [Nat.shiftLeft_eq, Nat.mul_assoc count, Nat.mul_assoc denominator, two_pow_mul_ten_pow]
  ring

/-- A decimal in decimal units, compared with the quotient that it is written as. -/
theorem scaled_point {quarters numerator denominator places : Nat}
    (value : 4 * numerator * 10 ^ places = denominator * quarters) (bits : Nat) :
    4 * (numerator <<< bits) * 10 ^ places = quarters * (denominator * 2 ^ bits) := by
  calc
    4 * (numerator <<< bits) * 10 ^ places = 4 * numerator * 10 ^ places * 2 ^ bits := by
      rw [Nat.shiftLeft_eq]
      ring
    _ = quarters * (denominator * 2 ^ bits) := by
      rw [value]
      ring

/-- A decimal lies on the same side of a bound whichever units are taken. -/
theorem scaled_le_iff {quarters numerator denominator scale bits : Nat}
    (positive : 0 < denominator)
    (value : 4 * numerator * 10 ^ (bits - scale) = denominator * quarters) (count : Nat) :
    (count * (denominator <<< scale) ≤ 4 * (numerator <<< bits) ↔
      count * (Nat.pow 5 (bits - scale) <<< (scale - bits)) ≤ quarters) ∧
    (4 * (numerator <<< bits) ≤ count * (denominator <<< scale) ↔
      quarters ≤ count * (Nat.pow 5 (bits - scale) <<< (scale - bits))) := by
  have ten : 0 < 10 ^ (bits - scale) := Nat.pow_pos (by decide)
  have units : 0 < denominator * 2 ^ bits := Nat.mul_pos positive (Nat.two_pow_pos _)
  have bound := scaled_bound count denominator scale bits
  have point := scaled_point value bits
  exact ⟨le_iff_of_scaled ten units bound point, le_iff_of_scaled ten units point bound⟩

/-- A decimal in the range of a number, given as a quotient, is covered by the number. -/
theorem covers_of_contains {x : Binary64} {quarters numerator denominator : Nat}
    (positive : 0 < denominator) (inside : x.roundingRange.contains quarters = true)
    (value : 4 * numerator * 10 ^ x.roundingRange.places = denominator * quarters) :
    x.Covers (numerator <<< 1074) denominator := by
  have side := scaled_le_iff positive value
  rcases RoundingRange.cases_of_contains inside with ⟨closed, lower, upper⟩ | ⟨lower, upper⟩
  · have even : x.significand % 2 = 0 := eq_of_beq closed
    exact ⟨(side _).1.2 lower, (side _).2.2 upper, fun _ => even⟩
  · refine ⟨(side _).1.2 (Nat.le_of_lt lower), (side _).2.2 (Nat.le_of_lt upper), fun tie => ?_⟩
    rcases tie with least | greatest
    · exact absurd ((side _).2.1 least.ge) (Nat.not_le.2 lower)
    · exact absurd ((side _).1.1 greatest.ge) (Nat.not_le.2 upper)

/-! ## The shortest decimal -/

/-- The shortest decimal of a number is in its range. -/
theorem contains_shortest {x : Binary64} (nonzero : x.isZero = false) :
    ∃ p : Nat, x.shortest.exponent = p - (x.roundingRange.places : Int) ∧
      x.roundingRange.contains (x.shortest.coefficient * (4 * Nat.pow 10 p)) = true := by
  have whole : x.roundingRange.point % 4 = 0 := by
    have quarters : x.roundingRange.point = 4 * x.significand * _ := rfl
    rw [quarters, Nat.mul_assoc, Nat.mul_mod_right]
  have shortest : x.shortest =
      x.roundingRange.coarsest (Nat.toDigits 10 (x.roundingRange.point / 4)).length := by
    rw [shortest, nonzero]
    rfl
  rw [shortest]
  exact RoundingRange.contains_coarsest (contains_point (significand_pos nonzero)) whole _

end Binary64

end LoxExpr
