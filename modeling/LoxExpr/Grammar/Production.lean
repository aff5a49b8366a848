import LoxExpr.Expr.Basic

/-!
# Productions

The grammar of expressions, from the loosest production to the tightest:

    expression     = sequence
    sequence       = conditional ("," conditional)*
    conditional    = equality ("?" expression ":" expression)?
    equality       = comparison (("!=" | "==") comparison)*
    comparison     = addition ((">" | ">=" | "<" | "<=") addition)*
    addition       = multiplication (("-" | "+") multiplication)*
    multiplication = unary (("/" | "*") unary)*
    unary          = ("!" | "-") unary | primary
    primary        = literal | "(" expression ")"

Five of them are chains: operands of one tighter production, joined by operators
of one level and folded to the left.  The module also holds the ways in which a
list of tokens can fail to follow the grammar.

Main results:

- Theorem `Chain.rank_operand_lt`: the operands of a chain are parsed by a
  production of lower rank, so a descent through the grammar ends.
-/

namespace LoxExpr

/-! ## Levels -/

/-- The productions that join operands by operators of one level. -/
inductive Chain
  | sequence
  | equality
  | comparison
  | addition
  | multiplication
deriving DecidableEq

/-- The productions of the grammar. -/
inductive Production
  | expression
  | chain (level : Chain)
  | conditional
  | unary
  | primary
deriving DecidableEq

namespace Chain

/-- The level of the operators that a mark can be. -/
def ofMark? : Mark → Option Chain
  | .comma => some .sequence
  | .bangEqual | .equalEqual => some .equality
  | .greater | .greaterEqual | .less | .lessEqual => some .comparison
  | .minus | .plus => some .addition
  | .slash | .star => some .multiplication
  | _ => none

/-- The production of the operands of a chain. -/
def operand : Chain → Production
  | .sequence => .conditional
  | .equality => .chain .comparison
  | .comparison => .chain .addition
  | .addition => .chain .multiplication
  | .multiplication => .unary

/-- Joins what a chain has so far with its next operand. -/
def join (level : Chain) (left : Expr) (operator : Token) (right : Expr) : Expr :=
  match level with
  | .sequence => .sequence left right
  | _ => .binary left operator right

end Chain

/-- How many productions can follow each other without a token between them. -/
def Production.rank : Production → Nat
  | .expression => 8
  | .chain .sequence => 7
  | .conditional => 6
  | .chain .equality => 5
  | .chain .comparison => 4
  | .chain .addition => 3
  | .chain .multiplication => 2
  | .unary => 1
  | .primary => 0

/-- The operands of a chain belong to a tighter production. -/
theorem Chain.rank_operand_lt (level : Chain) :
    level.operand.rank < (Production.chain level).rank := by
  cases level <;> decide

/-- The rank of a production counts the productions below it. -/
theorem Production.rank_le (p : Production) : p.rank ≤ 8 := by
  cases p with
  | chain level => cases level <;> decide
  | _ => decide

/-! ## What a token can begin or continue -/

namespace Token

/-- The mark that a token is. -/
def mark? (t : Token) : Option Mark :=
  match t.symbol with
  | .mark mark => some mark
  | _ => none

/-- The level at which a token continues a chain. -/
def chain? (t : Token) : Option Chain :=
  t.mark?.bind Chain.ofMark?

/-- The literal that a token is. -/
def literal? (t : Token) : Option Literal :=
  Literal.ofSymbol? t.symbol

/-- Whether a token is an operator with one operand. -/
def isUnary (t : Token) : Bool :=
  t.mark? == some .bang || t.mark? == some .minus

/-- Whether a token begins a statement. -/
def startsStatement (t : Token) : Bool :=
  match t.symbol with
  | .keyword keyword => keyword.startsStatement
  | _ => false

end Token

/-! ## Failures -/

/-- How a list of tokens fails to be an expression. -/
inductive Reason
  | expectedExpression
  | expectedRightParen
  | expectedColon
  | expectedEnd
  | tooDeep
deriving DecidableEq

namespace Reason

/-- The message of a failure. -/
def message : Reason → String
  | .expectedExpression => "Expect expression."
  | .expectedRightParen => "Expect ')' after expression."
  | .expectedColon => "Expect ':' between ternary branches."
  | .expectedEnd => "Expect end of expression."
  | .tooDeep => "Expression nested too deeply."

/-- The name of a failure in structural dumps. -/
def name : Reason → String
  | .expectedExpression => "ExpectedExpression"
  | .expectedRightParen => "ExpectedRightParen"
  | .expectedColon => "ExpectedColon"
  | .expectedEnd => "ExpectedEnd"
  | .tooDeep => "TooDeep"

end Reason

/-- The first failure of a parse, with the token at which it was found. -/
structure ParseError where
  reason : Reason
  token : Token
deriving DecidableEq

namespace ParseError

/-- The diagnostic that reports a failure. -/
def diagnostic (e : ParseError) : Diagnostic :=
  e.token.diagnostic e.reason.message

/-- The text of a failure is that of its diagnostic. -/
def render (e : ParseError) : String :=
  e.diagnostic.render

end ParseError

end LoxExpr
