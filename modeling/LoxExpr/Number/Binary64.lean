/-!
# Binary64 words

Numbers are IEEE 754 binary64 words.  A number is kept as its 64 bits, so
equality of words is decidable and tells apart what the arithmetic does not: the
two zeros, the infinities and every NaN.

A finite magnitude is a significand below `2 ^ 53` times a power of two, counted
in units of `2 ^ -1074`, the least positive value.  In these units every finite
magnitude is a natural number, and all later computation is exact.

Main results:

- Theorem `Binary64.magnitude_eq`: the word without its sign is recovered from
  the scale and the significand.
- Theorem `Binary64.agrees_comm`: comparison by value is symmetric.
-/

namespace LoxExpr

/-- A binary64 number, given by its bits. -/
structure Binary64 where
  bits : UInt64
deriving DecidableEq, Inhabited

namespace Binary64

/-! ## Parts of a word -/

/-- The word of the infinities without its sign; every larger one is a NaN. -/
def infiniteMagnitude : Nat := 0x7FF0000000000000

/-- Whether the sign bit is set, as it is for `-0` too. -/
def isNegative (x : Binary64) : Bool :=
  0x8000000000000000 ≤ x.bits.toNat

/-- The word without its sign. -/
def magnitude (x : Binary64) : Nat :=
  x.bits.toNat % 0x8000000000000000

/-- The non-negative number whose word without its sign is given. -/
def ofMagnitude (magnitude : Nat) : Binary64 :=
  ⟨UInt64.ofNat magnitude⟩

/-- Whether the word is no number. -/
def isNaN (x : Binary64) : Bool :=
  infiniteMagnitude < x.magnitude

/-- Whether the word is one of the infinities. -/
def isInfinite (x : Binary64) : Bool :=
  x.magnitude == infiniteMagnitude

/-- Whether the word is one of the zeros. -/
def isZero (x : Binary64) : Bool :=
  x.magnitude == 0

/-- The exponent field of the word. -/
def exponentField (x : Binary64) : Nat :=
  x.magnitude / 0x10000000000000

/-- The fraction field of the word. -/
def fractionField (x : Binary64) : Nat :=
  x.magnitude % 0x10000000000000

/-- The integral significand, with the hidden bit of a normal number. -/
def significand (x : Binary64) : Nat :=
  if x.exponentField = 0 then x.fractionField else 0x10000000000000 + x.fractionField

/-- The power of two that the significand is multiplied by, counted from the
least exponent `-1074`. -/
def scale (x : Binary64) : Nat :=
  x.exponentField - 1

/-- The gap below a power of two is half the gap above it, except at the least
normal number. -/
def isBinadeStart (x : Binary64) : Bool :=
  x.fractionField == 0 && 1 < x.exponentField

/-- The scale and the significand determine the word up to its sign. -/
theorem magnitude_eq (x : Binary64) :
    x.magnitude = x.scale * 0x10000000000000 + x.significand := by
  unfold scale significand fractionField exponentField
  split <;> omega

/-- A significand has at most 53 bits. -/
theorem significand_lt (x : Binary64) : x.significand < 0x20000000000000 := by
  unfold significand fractionField
  split <;> omega

/-! ## Comparison by value -/

/-- Comparison by value: a NaN agrees with nothing, itself included, and the two
zeros agree. -/
def agrees (x y : Binary64) : Bool :=
  !x.isNaN && !y.isNaN && (x == y || (x.isZero && y.isZero))

/-- Comparison by value is symmetric. -/
theorem agrees_comm (x y : Binary64) : x.agrees y = y.agrees x := by
  unfold agrees
  rw [Bool.and_comm (!x.isNaN), Bool.and_comm x.isZero, Bool.beq_comm]

end Binary64

end LoxExpr
