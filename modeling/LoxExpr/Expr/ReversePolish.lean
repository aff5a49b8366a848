import LoxExpr.Expr.Basic

/-!
# Reverse polish form

Operands come first and their operator last, as in `123 - 45.67 *`, so no
parentheses are needed and a grouping leaves no trace.  The marks of a conditional
close its condition and its branches, and the parts of a comma sequence are joined
by arrows.
-/

namespace LoxExpr.Expr

/-- The reverse polish form of a tree, in front of a text. -/
def reversePolishOnto : Expr → List Char → List Char
  | .literal value, rest => value.text.toList ++ rest
  | .grouping inner, rest => inner.reversePolishOnto rest
  | .unary operator right, rest =>
    right.reversePolishOnto (' ' :: (operator.lexeme.toList ++ rest))
  | .binary left operator right, rest =>
    left.reversePolishOnto (' ' ::
      right.reversePolishOnto (' ' :: (operator.lexeme.toList ++ rest)))
  | .conditional condition positive negative, rest =>
    condition.reversePolishOnto (" ? ".toList ++
      positive.reversePolishOnto (" : ".toList ++
        negative.reversePolishOnto (" ;".toList ++ rest)))
  | .sequence left right, rest =>
    left.reversePolishOnto (" -> ".toList ++ right.reversePolishOnto rest)

/-- The reverse polish form of a tree. -/
def reversePolish (e : Expr) : String :=
  String.ofList (e.reversePolishOnto [])

end LoxExpr.Expr
