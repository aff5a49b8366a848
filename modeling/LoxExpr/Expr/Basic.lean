import LoxExpr.Token.Basic

/-!
# Expression trees

The trees that expressions denote.  Operators are kept as the tokens they were
read from, literals as their values, and parentheses as nodes of their own.

Main results:

- Theorem `Expr.height_pos`: the height of a tree counts at least the root.
- Theorem `Literal.agrees_comm`: comparison of literals by value is symmetric.
-/

namespace LoxExpr

/-! ## Literals -/

/-- The value at a leaf. -/
inductive Literal
  | string (value : String)
  | number (value : Binary64)
  | boolean (value : Bool)
  | nil
  | keyword (word : String)
deriving DecidableEq

namespace Literal

/-- The text of a literal: a string without quotes, a reserved word as it is
spelled. -/
def text : Literal → String
  | .string value => value
  | .number value => value.plainText
  | .boolean true => "true"
  | .boolean false => "false"
  | .nil => "nil"
  | .keyword word => word

/-- Equality of literals in which numbers are compared by value. -/
def agrees : Literal → Literal → Bool
  | .number x, .number y => x.agrees y
  | a, b => a == b

/-- Comparison of literals is symmetric. -/
theorem agrees_comm (a b : Literal) : a.agrees b = b.agrees a := by
  cases a <;> cases b <;> simp only [agrees, Binary64.agrees_comm, BEq.comm]

/-- The literal that a symbol stands for in an expression. -/
def ofSymbol? : Symbol → Option Literal
  | .keyword .kwFalse => some (.boolean false)
  | .keyword .kwTrue => some (.boolean true)
  | .keyword .kwNil => some .nil
  | .number value => some (.number value)
  | .string value => some (.string value)
  | _ => none

end Literal

/-! ## Trees -/

/-- An expression. -/
inductive Expr
  | literal (value : Literal)
  | grouping (inner : Expr)
  | unary (operator : Token) (right : Expr)
  | binary (left : Expr) (operator : Token) (right : Expr)
  | conditional (condition positive negative : Expr)
  | sequence (left right : Expr)
deriving DecidableEq

namespace Expr

/-- The number of nodes on the longest path from the root to a leaf. -/
def height : Expr → Nat
  | .literal _ => 1
  | .grouping inner => inner.height + 1
  | .unary _ right => right.height + 1
  | .binary left _ right => max left.height right.height + 1
  | .conditional condition positive negative =>
    max (max condition.height positive.height) negative.height + 1
  | .sequence left right => max left.height right.height + 1

/-- A tree has at least its root. -/
theorem height_pos (e : Expr) : 0 < e.height := by
  cases e <;> simp [height]

/-- Equality of trees in which numbers are compared by value. -/
def agrees : Expr → Expr → Bool
  | .literal a, .literal b => a.agrees b
  | .grouping a, .grouping b => a.agrees b
  | .unary o a, .unary p b => o.agrees p && a.agrees b
  | .binary a o b, .binary c p d => a.agrees c && o.agrees p && b.agrees d
  | .conditional a b c, .conditional d e f => a.agrees d && b.agrees e && c.agrees f
  | .sequence a b, .sequence c d => a.agrees c && b.agrees d
  | _, _ => false

end Expr

end LoxExpr
