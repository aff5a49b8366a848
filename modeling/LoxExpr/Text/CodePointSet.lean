/-!
# Sets of code points

A character property of the Unicode standard is data: the closed ranges of the
code points that have it.  This module fixes that form, and the property modules
beside it hold one table each.

Main results:

- Theorem `CodePointSet.contains_iff`: a character belongs to a set exactly when
  one of the ranges covers its code point.
-/

namespace LoxExpr.Text

/-- A set of code points, listed as closed ranges from a first to a last code
point. -/
structure CodePointSet where
  ranges : List (Nat × Nat)

namespace CodePointSet

/-- Whether the code point of a character lies in one of the ranges. -/
def contains (set : CodePointSet) (c : Char) : Bool :=
  set.ranges.any fun range => range.1 ≤ c.toNat && c.toNat ≤ range.2

/-- Membership is coverage by one of the listed ranges. -/
theorem contains_iff (set : CodePointSet) (c : Char) :
    set.contains c = true ↔
      ∃ range ∈ set.ranges, range.1 ≤ c.toNat ∧ c.toNat ≤ range.2 := by
  simp [contains]

end CodePointSet

end LoxExpr.Text
