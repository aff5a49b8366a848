import LoxExpr.Diagnostic
import LoxExpr.Number.Decimal
import LoxExpr.Token.Symbol

/-!
# Tokens

A token is a symbol with the text it was read from and the line on which that
text ends.  The three parts are independent: nothing here requires the text to be
a spelling of the symbol.

Main results:

- Theorem `Token.place_eq_atEnd_iff`: diagnostics point at the end exactly for
  the token that ends the input.
-/

namespace LoxExpr

/-- A symbol with its text and line. -/
structure Token where
  symbol : Symbol
  lexeme : String
  line : Nat
deriving DecidableEq

namespace Token

/-- The token that ends an input, on its last line. -/
def endOfInput (line : Nat) : Token :=
  ⟨.endOfInput, "", line⟩

/-- The kind of a token. -/
def kind (t : Token) : Kind :=
  t.symbol.kind

/-- Whether a token ends the input. -/
def isEnd (t : Token) : Bool :=
  t.kind == .endOfInput

/-- Where a diagnostic about a token points. -/
def place (t : Token) : Place :=
  if t.isEnd then .atEnd else .atLexeme t.lexeme

/-- A diagnostic about a token. -/
def diagnostic (t : Token) (message : String) : Diagnostic :=
  ⟨t.line, t.place, message⟩

/-- The value of a token in a dump. -/
def valueText (t : Token) : String :=
  match t.symbol with
  | .string value => value
  | .number value => value.plainText
  | _ => "nil"

/-- The dump of a token: its kind, its text and its value. -/
def dump (t : Token) : String :=
  t.kind.name ++ " " ++ t.lexeme ++ " " ++ t.valueText

/-- The dump of a list of tokens, joined by line breaks. -/
def dumpAll (ts : List Token) : String :=
  String.intercalate "\n" (ts.map dump)

/-- Equality of tokens in which numbers are compared by value. -/
def agrees (a b : Token) : Bool :=
  a.symbol.agrees b.symbol && a.lexeme == b.lexeme && a.line == b.line

/-- A diagnostic points at the end only for the end of the input. -/
theorem place_eq_atEnd_iff (t : Token) : t.place = .atEnd ↔ t.isEnd = true := by
  unfold place
  split <;> simp_all

/-- Equal lines, texts and symbols without numbers agree. -/
theorem agrees_self_of_kind {t : Token} (h : t.kind ≠ .number) : t.agrees t = true := by
  cases t with
  | mk symbol lexeme line => cases symbol <;> simp_all [agrees, Symbol.agrees, kind, Symbol.kind]

end Token

end LoxExpr
