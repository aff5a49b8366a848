import LoxExpr.Grammar.Descent

/-!
# Descent without a limit

The same descent with no budget for the nesting.  Nothing counts down in it, so it ends for
another reason: a production never leaves more tokens than it was given, and whatever is
nested in another construct starts behind a token of that construct.  Trees therefore come
with a bound for what remains, and the equations of the descent are those of the limited one
without the budget.

Main results:

- Theorems `production_expression`, `production_chain`, `production_conditional`,
  `production_unary` and `production_primary`: what a production does, in terms of others.
- Theorem `continueChain_eq`: how a chain goes on.
-/

namespace LoxExpr.Grammar.Unlimited

/-! ## Trees with a bound for what remains -/

/-- Behind the front of some tokens there are no more of them. -/
theorem length_tail_le (ts : List Token) : ts.tail.length ≤ ts.length := by
  rw [List.length_tail]
  exact Nat.sub_le _ _

/-- A tree with at most a number of tokens behind it. -/
structure Parsed (n : Nat) where
  tree : Expr
  rest : List Token
  length_le : rest.length ≤ n

namespace Parsed

/-- A tree in front of some tokens. -/
def before (tree : Expr) (rest : List Token) : Parsed rest.length :=
  ⟨tree, rest, Nat.le_refl _⟩

/-- The same tree with a greater bound. -/
def widen {m n : Nat} (parsed : Parsed m) (le : m ≤ n) : Parsed n :=
  ⟨parsed.tree, parsed.rest, Nat.le_trans parsed.length_le le⟩

/-- The same tree, with a token in front of the tokens that it was read from. -/
def behind (t : Token) {ts : List Token} (parsed : Parsed ts.length) : Parsed (t :: ts).length :=
  parsed.widen (Nat.le_succ _)

/-- The same tree, with the tokens that it was read from as the tail of others. -/
def ofTail {ts : List Token} (parsed : Parsed ts.tail.length) : Parsed ts.length :=
  parsed.widen (length_tail_le ts)

/-- Another tree in front of the same tokens. -/
def map {n : Nat} (f : Expr → Expr) (parsed : Parsed n) : Parsed n :=
  ⟨f parsed.tree, parsed.rest, parsed.length_le⟩

/-- The tree and what is behind it. -/
def reading {n : Nat} (parsed : Parsed n) : Expr × List Token :=
  (parsed.tree, parsed.rest)

end Parsed

/-- Behind a mark there are fewer tokens. -/
theorem length_tail_lt {mark : Mark} {ts : List Token} (found : startsWith mark ts = true) :
    ts.tail.length < ts.length := by
  cases ts with
  | nil => contradiction
  | cons t rest => exact Nat.lt_succ_self _

/-- Passes a mark that has to come next. -/
def pass (mark : Mark) (reason : Reason) (ts : List Token) :
    Except Stuck {rest : List Token // rest.length ≤ ts.length} :=
  if startsWith mark ts then .ok ⟨ts.tail, length_tail_le ts⟩ else .error ⟨reason, ts⟩

/-! ## The descent -/

mutual

/-- Follows a production, however deeply it is nested. -/
def follow : Production → (ts : List Token) → Except Stuck (Parsed ts.length)
  | .expression, ts => follow (.chain .sequence) ts
  | .chain level, ts => do
    let left ← follow level.operand ts
    let whole ← extend level left.tree left.rest
    .ok (whole.widen left.length_le)
  | .conditional, ts => do
    let condition ← follow (.chain .equality) ts
    if _ : startsWith .questionMark condition.rest then
      let positive ← follow .expression condition.rest.tail
      let behind ← pass .colon .expectedColon positive.rest
      let negative ← follow .expression behind.1
      let whole := negative.map (.conditional condition.tree positive.tree)
      let branches := (whole.widen behind.2).widen positive.length_le
      .ok (branches.ofTail.widen condition.length_le)
    else .ok condition
  | .unary, ts =>
    match ts with
    | [] => follow .primary []
    | t :: rest =>
      if t.isUnary then do
        let right ← follow .unary rest
        .ok ((right.map (.unary t)).behind t)
      else follow .primary (t :: rest)
  | .primary, ts =>
    match ts with
    | [] => .error ⟨.expectedExpression, []⟩
    | t :: rest =>
      match t.literal? with
      | some value => .ok ((Parsed.before (.literal value) rest).behind t)
      | none =>
        if t.mark? = some .leftParen then do
          let inner ← follow .expression rest
          let behind ← pass .rightParen .expectedRightParen inner.rest
          let whole := Parsed.before (.grouping inner.tree) behind.1
          .ok (((whole.widen behind.2).widen inner.length_le).behind t)
        else .error ⟨.expectedExpression, t :: rest⟩
termination_by p ts => 10 * ts.length + p.rank + 1
decreasing_by
  · decide
  · simp only [Production.rank]
    omega
  · have := Chain.rank_operand_lt level
    omega
  · have := left.length_le
    omega
  · simp only [Production.rank]
    omega
  · have := length_tail_lt ‹startsWith .questionMark condition.rest = true›
    have := condition.length_le
    simp only [Production.rank]
    omega
  · have := length_tail_lt ‹startsWith .questionMark condition.rest = true›
    have := condition.length_le
    have := positive.length_le
    have := behind.2
    simp only [Production.rank]
    omega
  all_goals
    simp only [Production.rank, List.length_cons]
    omega

/-- Continues a chain behind what it has so far, however long it is. -/
def extend (level : Chain) (left : Expr) (ts : List Token) : Except Stuck (Parsed ts.length) :=
  match ts with
  | [] => .ok (.before left [])
  | t :: rest =>
    if t.chain? = some level then do
      let right ← follow level.operand rest
      let whole ← extend level (level.join left t right.tree) right.rest
      .ok ((whole.widen right.length_le).behind t)
    else .ok (.before left (t :: rest))
termination_by 10 * ts.length
decreasing_by
  · have := Production.rank_le level.operand
    rw [List.length_cons]
    omega
  · have := right.length_le
    rw [List.length_cons]
    omega

end

/-! ## What the descent yields -/

/-- Follows a production and gives the tree with what remains. -/
def production (p : Production) (ts : List Token) : Reading :=
  (follow p ts).map Parsed.reading

/-- Continues a chain and gives the tree with what remains. -/
def continueChain (level : Chain) (left : Expr) (ts : List Token) : Reading :=
  (extend level left ts).map Parsed.reading

/-- Reads one expression that has to reach up to the end of the input. -/
def complete (ts : List Token) : Reading := do
  let (e, rest) ← production .expression ts
  if atEnd rest then .ok (e, rest) else .error ⟨.expectedEnd, rest⟩

@[simp] theorem ok_bind {α β : Type} (a : α) (next : α → Except Stuck β) :
    (.ok a : Except Stuck α) >>= next = next a := rfl

@[simp] theorem error_bind {α β : Type} (s : Stuck) (next : α → Except Stuck β) :
    (.error s : Except Stuck α) >>= next = .error s := rfl

/-- A mark is passed or missed as it is in a descent with a limit. -/
theorem expect_eq (mark : Mark) (reason : Reason) (ts : List Token) :
    expect mark reason ts = (pass mark reason ts).map Subtype.val := by
  unfold expect pass
  split <;> rfl

/-! ## The equations of the descent -/

/-- An expression is a chain of the loosest level. -/
theorem production_expression (ts : List Token) :
    production .expression ts = production (.chain .sequence) ts := by
  rw [production, follow.eq_def]
  rfl

/-- A chain begins with an operand. -/
theorem production_chain (level : Chain) (ts : List Token) :
    production (.chain level) ts = (do
      let (left, rest) ← production level.operand ts
      continueChain level left rest) := by
  rw [production, follow.eq_def]
  simp only [production, continueChain]
  cases follow level.operand ts with
  | error s => rfl
  | ok left =>
    simp only [ok_bind, Except.map, Parsed.reading]
    cases extend level left.tree left.rest <;> rfl

/-- A conditional begins with its condition, and a question mark decides whether there are
branches. -/
theorem production_conditional (ts : List Token) :
    production .conditional ts = (do
      let (condition, rest) ← production (.chain .equality) ts
      if startsWith .questionMark rest then
        let (positive, rest) ← production .expression rest.tail
        let rest ← expect .colon .expectedColon rest
        let (negative, rest) ← production .expression rest
        .ok (.conditional condition positive negative, rest)
      else .ok (condition, rest)) := by
  rw [production, follow.eq_def]
  simp only [production, expect_eq]
  cases follow (.chain .equality) ts with
  | error s => rfl
  | ok condition =>
    by_cases question : startsWith .questionMark condition.rest = true
    · simp only [ok_bind, Except.map, Parsed.reading, question, dite_true, if_true]
      cases follow .expression condition.rest.tail with
      | error s => rfl
      | ok positive =>
        simp only [ok_bind]
        cases pass .colon .expectedColon positive.rest with
        | error s => rfl
        | ok behind =>
          simp only [ok_bind]
          cases follow .expression behind.1 <;> rfl
    · simp only [ok_bind, Except.map, Parsed.reading, question]
      rfl

/-- A unary operator is in front of another unary expression. -/
theorem production_unary (ts : List Token) :
    production .unary ts =
      match ts with
      | [] => production .primary []
      | t :: rest =>
        if t.isUnary then do
          let (right, rest) ← production .unary rest
          .ok (.unary t right, rest)
        else production .primary (t :: rest) := by
  rw [production, follow.eq_def]
  cases ts with
  | nil => rfl
  | cons t rest =>
    simp only [production]
    split
    · cases follow .unary rest <;> rfl
    · rfl

/-- A primary expression is a literal or a grouping. -/
theorem production_primary (ts : List Token) :
    production .primary ts =
      match ts with
      | [] => .error ⟨.expectedExpression, []⟩
      | t :: rest =>
        match t.literal? with
        | some value => .ok (.literal value, rest)
        | none =>
          if t.mark? = some .leftParen then do
            let (inner, rest) ← production .expression rest
            let rest ← expect .rightParen .expectedRightParen rest
            .ok (.grouping inner, rest)
          else .error ⟨.expectedExpression, t :: rest⟩ := by
  rw [production, follow.eq_def]
  cases ts with
  | nil => rfl
  | cons t rest =>
    simp only [production, expect_eq]
    split
    · rfl
    split
    · cases follow .expression rest with
      | error s => rfl
      | ok inner =>
        simp only [ok_bind, Except.map, Parsed.reading]
        cases pass .rightParen .expectedRightParen inner.rest <;> rfl
    · rfl

/-- A chain goes on as long as operators of its level follow. -/
theorem continueChain_eq (level : Chain) (left : Expr) (ts : List Token) :
    continueChain level left ts =
      match ts with
      | [] => .ok (left, [])
      | t :: rest =>
        if t.chain? = some level then do
          let (right, rest) ← production level.operand rest
          continueChain level (level.join left t right) rest
        else .ok (left, t :: rest) := by
  rw [continueChain, extend.eq_def]
  cases ts with
  | nil => rfl
  | cons t rest =>
    simp only [production, continueChain]
    split
    · cases follow level.operand rest with
      | error s => rfl
      | ok right =>
        simp only [ok_bind, Except.map, Parsed.reading]
        cases extend level (level.join left t right.tree) right.rest <;> rfl
    · rfl

end LoxExpr.Grammar.Unlimited
