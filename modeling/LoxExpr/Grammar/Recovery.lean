import LoxExpr.Grammar.Descent

/-!
# Recovery after a failure

A parse that failed is followed by skipping tokens up to a place where the next
statement can begin: behind a semicolon, in front of a keyword that starts a
statement, or at the end.  The token at which the parse got stuck is always
passed, so that recovery moves on.

Main results:

- Theorem `recover_suffix`: recovery only drops tokens from the front.
- Theorem `recover_of_atEnd`: at the end there is nothing to skip.
-/

namespace LoxExpr.Grammar

/-- Skips tokens up to the next place where a statement can begin, given the token
before them. -/
def skipStatement (previous : Token) : List Token → List Token
  | [] => []
  | t :: rest =>
    if t.isEnd || previous.mark? == some .semicolon || t.startsStatement then t :: rest
    else skipStatement t rest

/-- The tokens that are left after recovery. -/
def recover : List Token → List Token
  | [] => []
  | t :: rest => if t.isEnd then t :: rest else skipStatement t rest

/-- The tokens that recovery skips behind the one at which it starts. -/
def skipped (ts : List Token) : List Token :=
  ts.tail.take (ts.tail.length - (recover ts).length)

/-- Skipping drops tokens from the front. -/
theorem skipStatement_suffix (previous : Token) (ts : List Token) :
    skipStatement previous ts <:+ ts := by
  induction ts generalizing previous with
  | nil => exact List.suffix_refl _
  | cons t rest ih =>
    simp only [skipStatement]
    split
    · exact List.suffix_refl _
    · exact (ih t).trans (List.suffix_cons t rest)

/-- Recovery drops tokens from the front. -/
theorem recover_suffix (ts : List Token) : recover ts <:+ ts := by
  cases ts with
  | nil => exact List.suffix_refl _
  | cons t rest =>
    simp only [recover]
    split
    · exact List.suffix_refl _
    · exact (skipStatement_suffix t rest).trans (List.suffix_cons t rest)

/-- At the end there is nothing to skip. -/
theorem recover_of_atEnd {ts : List Token} (h : atEnd ts = true) : recover ts = ts := by
  cases ts with
  | nil => rfl
  | cons t rest => exact if_pos h

end LoxExpr.Grammar
