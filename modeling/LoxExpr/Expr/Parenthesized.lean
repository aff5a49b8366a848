import LoxExpr.Expr.Basic

/-!
# Parenthesized form

Every operator application stands in parentheses with its operator first, as in
`(* (- 123) (group 45.67))`.  Only a comma sequence has none: its parts are joined
by arrows.

A form is written in front of a given text, so the whole tree is written without
copying the parts that are finished.
-/

namespace LoxExpr.Expr

/-- Opens a form with its operator, in front of its operands. -/
def opening (operator : String) (operands : List Char) : List Char :=
  '(' :: (operator.toList ++ operands)

/-- The parenthesized form of a tree, in front of a text. -/
def parenthesizedOnto : Expr → List Char → List Char
  | .literal value, rest => value.text.toList ++ rest
  | .grouping inner, rest => opening "group" (' ' :: inner.parenthesizedOnto (')' :: rest))
  | .unary operator right, rest =>
    opening operator.lexeme (' ' :: right.parenthesizedOnto (')' :: rest))
  | .binary left operator right, rest =>
    opening operator.lexeme
      (' ' :: left.parenthesizedOnto (' ' :: right.parenthesizedOnto (')' :: rest)))
  | .conditional condition positive negative, rest =>
    opening "if" (' ' :: condition.parenthesizedOnto
      (' ' :: positive.parenthesizedOnto (' ' :: negative.parenthesizedOnto (')' :: rest))))
  | .sequence left right, rest =>
    left.parenthesizedOnto (" -> ".toList ++ right.parenthesizedOnto rest)

/-- The parenthesized form of a tree. -/
def parenthesized (e : Expr) : String :=
  String.ofList (e.parenthesizedOnto [])

end LoxExpr.Expr
