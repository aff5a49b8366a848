import LoxExpr.Expr.Basic
import LoxExpr.Text.Form
import LoxExpr.Text.Quoted

/-!
# Structural forms of tokens and trees

How symbols, tokens, literals and expressions are shown in trace records: by their
constructors, with quoted texts and marked numbers.

Main results:

- Theorem `Symbol.form_of_kind`: a symbol without a value is shown by the name
  of its kind.
-/

namespace LoxExpr

open Text (Form quoted)

/-- The form of a symbol: the name of its kind, with its value if it carries one. -/
def Symbol.form (s : Symbol) : Form :=
  match s with
  | .string value => .tuple s.kind.name [.atom (quoted value)]
  | .number value => .tuple s.kind.name [.atom value.markedText]
  | _ => .atom s.kind.name

/-- The form of a token. -/
def Token.form (t : Token) : Form :=
  .record "Token"
    [.labelled "data" t.symbol.form, .labelled "lexeme" (.atom (quoted t.lexeme)),
      .labelled "line" (.ofLine t.line)]

/-- The form of a literal. -/
def Literal.form : Literal → Form
  | .string value => .tuple "Str" [.atom (quoted value)]
  | .number value => .tuple "Number" [.atom value.markedText]
  | .boolean value => .tuple "Boolean" [.atom (toString value)]
  | .nil => .atom "Nil"
  | .keyword word => .tuple "Keyword" [.atom (quoted word)]

/-- The form of an expression. -/
def Expr.form : Expr → Form
  | .literal value => .tuple "Literal" [value.form]
  | .grouping inner => .tuple "Grouping" [inner.form]
  | .unary operator right =>
    .record "Unary" [.labelled "operator" operator.form, .labelled "right" right.form]
  | .binary left operator right =>
    .record "Binary"
      [.labelled "left" left.form, .labelled "operator" operator.form,
        .labelled "right" right.form]
  | .conditional condition positive negative =>
    .record "Ternary"
      [.labelled "condition" condition.form, .labelled "positive" positive.form,
        .labelled "negative" negative.form]
  | .sequence left right =>
    .record "Sequenced" [.labelled "left" left.form, .labelled "right" right.form]

/-- A symbol without a value is shown by the name of its kind. -/
theorem Symbol.form_of_kind {s : Symbol} (string : s.kind ≠ .string)
    (number : s.kind ≠ .number) : s.form = .atom s.kind.name := by
  cases s <;> simp_all [form, kind]

end LoxExpr
