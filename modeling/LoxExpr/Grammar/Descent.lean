import LoxExpr.Grammar.Production

/-!
# Descent through the grammar

Recursive descent over a list of tokens with a budget for the depth of nesting.
A parenthesis, a unary operator, a question mark and every further operator of a
chain each cost one unit for all that is parsed behind it within the same
construct, and none is left when the budget is used up.  A finished construct
gives its units back, since the budget is passed down and never returned.

The end of the input is a token that no production accepts, so a descent never
passes it, and an empty list behaves like one that starts with it.

Main results:

- Theorems `continueChain_nil` and `continueChain_of_ne`: a chain ends at the
  end of the tokens and in front of a token that is no operator of its level.
- Theorems `continueChain_zero` and `continueChain_succ`: an operator of its
  level costs one unit, and none is accepted without a budget.
- Theorem `production_primary_literal`: a literal is read without looking
  further.
-/

namespace LoxExpr.Grammar

/-- A list of tokens that is not followed further, and why. -/
structure Stuck where
  reason : Reason
  rest : List Token
deriving DecidableEq

/-- What a production yields: a tree and the tokens behind it, or where and why it
got stuck. -/
abbrev Reading := Except Stuck (Expr × List Token)

/-- Whether a list of tokens is at the end of the input. -/
def atEnd : List Token → Bool
  | [] => true
  | t :: _ => t.isEnd

/-- Whether a list of tokens begins with a mark. -/
def startsWith (mark : Mark) : List Token → Bool
  | [] => false
  | t :: _ => t.mark? == some mark

/-- Passes a mark that has to come next. -/
def expect (mark : Mark) (reason : Reason) (ts : List Token) : Except Stuck (List Token) :=
  if startsWith mark ts then .ok ts.tail else .error ⟨reason, ts⟩

mutual

/-- Follows a production, with a budget for the nesting inside of it. -/
def production (budget : Nat) : Production → List Token → Reading
  | .expression, ts => production budget (.chain .sequence) ts
  | .chain level, ts => do
    let (left, rest) ← production budget level.operand ts
    continueChain budget level left rest
  | .conditional, ts => do
    let (condition, rest) ← production budget (.chain .equality) ts
    if startsWith .questionMark rest then
      match budget with
      | 0 => .error ⟨.tooDeep, rest⟩
      | budget + 1 => do
        let (positive, rest) ← production budget .expression rest.tail
        let rest ← expect .colon .expectedColon rest
        let (negative, rest) ← production budget .expression rest
        .ok (.conditional condition positive negative, rest)
    else .ok (condition, rest)
  | .unary, ts =>
    match ts with
    | [] => production budget .primary []
    | t :: rest =>
      if t.isUnary then
        match budget with
        | 0 => .error ⟨.tooDeep, t :: rest⟩
        | budget + 1 => do
          let (right, rest) ← production budget .unary rest
          .ok (.unary t right, rest)
      else production budget .primary (t :: rest)
  | .primary, ts =>
    match ts with
    | [] => .error ⟨.expectedExpression, []⟩
    | t :: rest =>
      match t.literal? with
      | some value => .ok (.literal value, rest)
      | none =>
        if t.mark? = some .leftParen then
          match budget with
          | 0 => .error ⟨.tooDeep, t :: rest⟩
          | budget + 1 => do
            let (inner, rest) ← production budget .expression rest
            let rest ← expect .rightParen .expectedRightParen rest
            .ok (.grouping inner, rest)
        else .error ⟨.expectedExpression, t :: rest⟩
termination_by p => 10 * budget + p.rank + 1
decreasing_by
  · simp only [Production.rank]
    omega
  · have := Chain.rank_operand_lt level
    omega
  · omega
  all_goals
    simp only [Production.rank]
    omega

/-- Continues a chain behind what it has so far, as long as operators of its level
follow. -/
def continueChain (budget : Nat) (level : Chain) (left : Expr) (ts : List Token) : Reading :=
  match ts with
  | [] => .ok (left, [])
  | t :: rest =>
    if t.chain? = some level then
      match budget with
      | 0 => .error ⟨.tooDeep, t :: rest⟩
      | budget + 1 => do
        let (right, rest) ← production budget level.operand rest
        continueChain budget level (level.join left t right) rest
    else .ok (left, t :: rest)
termination_by 10 * budget
decreasing_by
  all_goals
    have := Production.rank_le level.operand
    omega

end

/-! ## Single steps -/

/-- A chain that reaches the end of the tokens is complete. -/
@[simp] theorem continueChain_nil (budget : Nat) (level : Chain) (left : Expr) :
    continueChain budget level left [] = .ok (left, []) := by
  rw [continueChain]

/-- A chain ends in front of a token that is no operator of its level. -/
theorem continueChain_of_ne {t : Token} {level : Chain} (h : t.chain? ≠ some level)
    (budget : Nat) (left : Expr) (rest : List Token) :
    continueChain budget level left (t :: rest) = .ok (left, t :: rest) := by
  rw [continueChain.eq_def]
  exact if_neg h

/-- Without a budget, a further operator of a chain is one too many. -/
theorem continueChain_zero {t : Token} {level : Chain} (h : t.chain? = some level)
    (left : Expr) (rest : List Token) :
    continueChain 0 level left (t :: rest) = .error ⟨.tooDeep, t :: rest⟩ := by
  rw [continueChain.eq_def]
  exact if_pos h

/-- An operator of a chain costs one unit for its right operand and for the rest
of the chain. -/
theorem continueChain_succ {t : Token} {level : Chain} (h : t.chain? = some level)
    (budget : Nat) (left : Expr) (rest : List Token) :
    continueChain (budget + 1) level left (t :: rest) =
      (production budget level.operand rest).bind fun (right, rest) =>
        continueChain budget level (level.join left t right) rest := by
  rw [continueChain.eq_def]
  exact if_pos h

/-- A literal is read without looking further, whatever the budget. -/
theorem production_primary_literal {t : Token} {value : Literal} (h : t.literal? = some value)
    (budget : Nat) (rest : List Token) :
    production budget .primary (t :: rest) = .ok (.literal value, rest) := by
  rw [production.eq_def]
  simp only [h]

/-! ## Complete expressions -/

/-- The depth of nesting that is allowed. -/
def maxDepth : Nat := 255

/-- Reads one expression that has to reach up to the end of the input. -/
def complete (limit : Nat) (ts : List Token) : Reading := do
  let (e, rest) ← production limit .expression ts
  if atEnd rest then .ok (e, rest) else .error ⟨.expectedEnd, rest⟩

end LoxExpr.Grammar
