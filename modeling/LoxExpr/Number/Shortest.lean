import LoxExpr.Number.Binary64

/-!
# Shortest decimals

The decimal text of a number has the fewest digits that read back as the same
number, and of those decimals it is the nearest one.

All decimals with few digits lie on a coarse grid of powers of ten.  The search
walks from a grid coarser than the number down to the grid on which the number
itself lies, and looks on each grid at the two neighbours of the number only: if
any point of a grid reads back, one of these does.

Main results:

- Theorem `Binary64.contains_point`: the number itself reads back, so the search
  always ends with a decimal that does.
-/

namespace LoxExpr

/-- The decimal number `coefficient * 10 ^ exponent`. -/
structure Decimal where
  coefficient : Nat
  exponent : Int
deriving DecidableEq

/-- The decimals that read back as one number, in quarters of the unit
`10 ^ -places`. -/
structure RoundingRange where
  lower : Nat
  point : Nat
  upper : Nat
  closed : Bool
  places : Nat

namespace RoundingRange

/-- Whether a decimal, in quarter units, reads back as the number.  The ends of
the range do when they are ties that go to this number. -/
def contains (range : RoundingRange) (quarters : Nat) : Bool :=
  if range.closed then range.lower ≤ quarters && quarters ≤ range.upper
  else range.lower < quarters && quarters < range.upper

/-- The multiple of `10 ^ power` units that reads back, if there is one.  Of two
neighbours the nearer is taken, and the upper one if they are equally near. -/
def onGrid? (range : RoundingRange) (power : Nat) : Option Nat :=
  let step := 4 * Nat.pow 10 power
  let below := range.point / step
  match range.contains (below * step), range.contains ((below + 1) * step) with
  | false, false => none
  | true, false => some below
  | false, true => some (below + 1)
  | true, true => some (if 2 * (range.point % step) < step then below else below + 1)

/-- The decimal on the coarsest grid with a point that reads back, from the grid
of a power of ten downwards.  On the last grid the number itself is a point. -/
def coarsest (range : RoundingRange) : Nat → Decimal
  | 0 => ⟨range.point / 4, -range.places⟩
  | power + 1 =>
    match range.onGrid? (power + 1) with
    | some coefficient => ⟨coefficient, (power + 1 : Nat) - (range.places : Int)⟩
    | none => coarsest range power

end RoundingRange

namespace Binary64

/-- The range of decimals that read back as a finite magnitude.  One unit of
`2 ^ (scale - 1074)` is a whole number of units of `10 ^ -places`, because a
negative power of two is a power of five over a power of ten. -/
def roundingRange (x : Binary64) : RoundingRange :=
  let places := 1074 - x.scale
  let unit := Nat.pow 5 places <<< (x.scale - 1074)
  let quarters := 4 * x.significand
  { lower := (quarters - if x.isBinadeStart then 1 else 2) * unit
    point := quarters * unit
    upper := (quarters + 2) * unit
    closed := x.significand % 2 == 0
    places := places }

/-- The shortest decimal of a finite magnitude. -/
def shortest (x : Binary64) : Decimal :=
  if x.isZero then ⟨0, 0⟩
  else
    let range := x.roundingRange
    range.coarsest (Nat.toDigits 10 (range.point / 4)).length

/-- A positive number lies within its own range. -/
theorem contains_point {x : Binary64} (positive : 0 < x.significand) :
    x.roundingRange.contains x.roundingRange.point = true := by
  have unit : 0 < Nat.pow 5 (1074 - x.scale) <<< (x.scale - 1074) := by
    rw [Nat.shiftLeft_eq]
    exact Nat.mul_pos (Nat.pow_pos (by decide)) (Nat.pow_pos (by decide))
  have lower : x.roundingRange.lower < x.roundingRange.point := by
    have least : (4 * x.significand - if x.isBinadeStart then 1 else 2) < 4 * x.significand := by
      split <;> omega
    exact Nat.mul_lt_mul_of_pos_right least unit
  have upper : x.roundingRange.point < x.roundingRange.upper := by
    have most : 4 * x.significand < 4 * x.significand + 2 := by omega
    exact Nat.mul_lt_mul_of_pos_right most unit
  unfold RoundingRange.contains
  split <;> simp [lower, upper, Nat.le_of_lt]

end Binary64

end LoxExpr
