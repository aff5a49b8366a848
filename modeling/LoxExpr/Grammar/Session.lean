import LoxExpr.Grammar.Recovery

/-!
# Parser sessions

A session reads one list of tokens, keeps its position in it, and collects the
diagnostics of the parses that failed.  It can be asked to parse, to recover, and
to show the token it looks at, in any order and any number of times.

The list need not have an end of input.  Behind its last token the session looks
at an end of input on the line of that token.

Main results:

- Theorem `Session.peek_of_rest_eq_cons`: inside the list the session looks at
  the next token.
- Theorem `Session.peek_of_rest_eq_nil`: behind the list it looks at the end of
  input.
- Theorem `Session.reported_synchronize`: recovery reports nothing.
-/

namespace LoxExpr

/-- A parser at work on a list of tokens. -/
structure Session where
  tokens : List Token
  position : Nat
  reported : List Diagnostic
deriving DecidableEq

namespace Session

/-- A session at the start of a list of tokens. -/
def start (tokens : List Token) : Session :=
  ⟨tokens, 0, []⟩

/-- The tokens from the position on. -/
def rest (s : Session) : List Token :=
  s.tokens.drop s.position

/-- The end of input that is thought of behind the tokens. -/
def endToken (s : Session) : Token :=
  Token.endOfInput ((s.tokens.getLast?.map Token.line).getD 1)

/-- The token that a list of remaining tokens shows first. -/
def front (s : Session) (rest : List Token) : Token :=
  rest.head?.getD s.endToken

/-- The token at the position. -/
def peek (s : Session) : Token :=
  s.front s.rest

/-- Moves to where the remaining tokens begin. -/
def moveTo (s : Session) (rest : List Token) : Session :=
  { s with position := s.tokens.length - rest.length }

/-- Parses one expression that has to reach up to the end.  A failure is reported,
and the session stays at the token where it was found. -/
def parse (s : Session) : Except ParseError Expr × Session :=
  match Grammar.complete Grammar.maxDepth s.rest with
  | .ok (e, rest) => (.ok e, s.moveTo rest)
  | .error stuck =>
    let failure : ParseError := ⟨stuck.reason, s.front stuck.rest⟩
    (.error failure,
      { s.moveTo stuck.rest with reported := s.reported ++ [failure.diagnostic] })

/-- Skips to the next place where a statement can begin. -/
def synchronize (s : Session) : Session :=
  s.moveTo (Grammar.recover s.rest)

/-! ## Calls -/

/-- What a session can be asked for. -/
inductive Call
  | parse
  | synchronize
  | peek
deriving DecidableEq

/-- What a session answers. -/
inductive Answer
  | parsed (result : Except ParseError Expr)
  | synchronized (skipped : List Token)
  | peeked (token : Token)

/-- Answers one call. -/
def answer (s : Session) : Call → Answer × Session
  | .parse =>
    let (result, next) := s.parse
    (.parsed result, next)
  | .synchronize => (.synchronized (Grammar.skipped s.rest), s.synchronize)
  | .peek => (.peeked s.peek, s)

/-- Answers calls one after the other. -/
def run (s : Session) : List Call → List Answer × Session
  | [] => ([], s)
  | call :: calls =>
    let (first, next) := s.answer call
    let (later, last) := next.run calls
    (first :: later, last)

/-- Inside the list the session looks at the next token. -/
theorem peek_of_rest_eq_cons {s : Session} {t : Token} {ts : List Token}
    (h : s.rest = t :: ts) : s.peek = t := by
  simp [peek, front, h]

/-- Behind the list the session looks at the end of input. -/
theorem peek_of_rest_eq_nil {s : Session} (h : s.rest = []) : s.peek = s.endToken := by
  simp [peek, front, h]

@[simp] theorem reported_synchronize (s : Session) : s.synchronize.reported = s.reported := rfl

end Session

/-- Parses a list of tokens as one expression. -/
def parse (tokens : List Token) : Except ParseError Expr :=
  (Session.start tokens).parse.1

end LoxExpr
