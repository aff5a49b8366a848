import LoxExpr.Command.Arguments
import LoxExpr.Expr.Parenthesized
import LoxExpr.Expr.ReversePolish
import LoxExpr.Grammar.Session
import LoxExpr.Lexical.Scan

/-!
# Outcomes of a command

A source is either rendered as a whole or answered with diagnostics only.  Lexical
faults are all reported, and a source that has any is not parsed; a parse stops at
its first failure.

Main results:

- Theorem `render_eq_error_of_hadError`: lexical faults are reported alone.
- Theorem `render_tokens`: the token dump does not depend on the grammar.
-/

namespace LoxExpr.Command

/-- What a command leaves behind: an exit code and the texts it has written. -/
structure Outcome where
  code : Nat
  stdout : String
  stderr : String
deriving DecidableEq

/-- A tree in the form that was asked for. -/
def renderTree (output : Output) (e : Expr) : String :=
  match output with
  | .reversePolish => e.reversePolish
  | _ => e.parenthesized

/-- What is printed for a source, or the diagnostics about it. -/
def render (output : Output) (source : String) : Except (List Diagnostic) String :=
  let scanned := scan source
  if scanned.hadError then .error scanned.diagnostics
  else if output = .tokens then .ok (Token.dumpAll scanned.tokens)
  else
    match parse scanned.tokens with
    | .ok e => .ok (renderTree output e)
    | .error failure => .error [failure.diagnostic]

/-- The outcome for a source that is a whole script. -/
def Outcome.ofRendering : Except (List Diagnostic) String → Outcome
  | .ok text => ⟨0, text ++ "\n", ""⟩
  | .error diagnostics => ⟨65, "", Diagnostic.renderLines diagnostics⟩

/-- A source with lexical faults is answered with the diagnostics of the scan. -/
theorem render_eq_error_of_hadError {source : String} (h : (scan source).hadError = true)
    (output : Output) : render output source = .error (scan source).diagnostics := by
  simp [render, h]

/-- A source without lexical faults has a token dump, whatever its grammar. -/
theorem render_tokens {source : String} (h : (scan source).hadError = false) :
    render .tokens source = .ok (Token.dumpAll (scan source).tokens) := by
  simp [render, h]

end LoxExpr.Command
