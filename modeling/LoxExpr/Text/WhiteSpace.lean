import LoxExpr.Text.CodePointSet

/-!
# White space

The Unicode property White_Space.  It is the property by which a line of the
prompt counts as empty; the four characters that separate tokens are a choice of
the lexical grammar and are not this set.

Main results:

- Theorem `isWhiteSpace_of_isWhitespace`: core's ASCII white space has the
  property.
-/

namespace LoxExpr.Text

/-- The code points with the property White_Space. -/
def whiteSpace : CodePointSet where
  ranges := [
    (0x9, 0xD), (0x20, 0x20), (0x85, 0x85), (0xA0, 0xA0), (0x1680, 0x1680), (0x2000, 0x200A),
    (0x2028, 0x2029), (0x202F, 0x202F), (0x205F, 0x205F), (0x3000, 0x3000)
  ]

/-- Whether a character has the property White_Space. -/
def isWhiteSpace (c : Char) : Bool :=
  whiteSpace.contains c

/-- Every character that core counts as white space has the property. -/
theorem isWhiteSpace_of_isWhitespace {c : Char} (h : c.isWhitespace = true) :
    isWhiteSpace c = true := by
  simp only [Char.isWhitespace, Bool.or_eq_true, decide_eq_true_eq] at h
  rcases h with ((rfl | rfl) | rfl) | rfl <;> decide

end LoxExpr.Text
