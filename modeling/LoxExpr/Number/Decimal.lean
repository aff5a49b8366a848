import LoxExpr.Number.Shortest

/-!
# Decimal text of numbers

A number is written in one of two ways.  The plain text is positional: never an
exponent, and no point on a whole number.  The marked text shows at a glance that
it is a number of this kind: a whole number ends in `.0`, and very large and very
small numbers have an exponent.
-/

namespace LoxExpr

namespace Decimal

/-- The digits of the coefficient. -/
def digits (d : Decimal) : List Char :=
  Nat.toDigits 10 d.coefficient

/-- The decimal exponent of the leading digit. -/
def leadingExponent (d : Decimal) : Int :=
  d.exponent + d.digits.length - 1

/-- The positional text: zeros up to the point, or a point with at least one
digit before it. -/
def positional (d : Decimal) : List Char :=
  match d.exponent with
  | .ofNat zeros => d.digits ++ List.replicate zeros '0'
  | .negSucc n =>
    let padded := List.replicate (n + 2 - d.digits.length) '0' ++ d.digits
    let whole := padded.length - (n + 1)
    padded.take whole ++ '.' :: padded.drop whole

/-- The text with an exponent: a point after the first digit, unless it is the
only one. -/
def scientific (d : Decimal) : List Char :=
  let mantissa :=
    match d.digits with
    | first :: second :: rest => first :: '.' :: second :: rest
    | single => single
  mantissa ++ 'e' :: (toString d.leadingExponent).toList

/-- Marked text has an exponent from `10 ^ 16` on and below `10 ^ -4`, and a
fraction of at least one digit otherwise. -/
def marked (d : Decimal) : List Char :=
  if d.coefficient ≠ 0 ∧ (d.leadingExponent < -4 ∨ 16 ≤ d.leadingExponent) then d.scientific
  else if 0 ≤ d.exponent then d.positional ++ ['.', '0']
  else d.positional

end Decimal

namespace Binary64

/-- The text of a number whose finite magnitudes are written by `layout`. -/
def textBy (layout : Decimal → List Char) (x : Binary64) : String :=
  if x.isNaN then "NaN"
  else
    let magnitude := if x.isInfinite then ['i', 'n', 'f'] else layout x.shortest
    String.ofList (if x.isNegative then '-' :: magnitude else magnitude)

/-- The positional text of a number. -/
def plainText (x : Binary64) : String :=
  x.textBy Decimal.positional

/-- The text of a number in a structural dump. -/
def markedText (x : Binary64) : String :=
  x.textBy Decimal.marked

end Binary64

end LoxExpr
