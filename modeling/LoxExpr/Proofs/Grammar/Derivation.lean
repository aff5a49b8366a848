import LoxExpr.Grammar.Session

/-!
# Derivations of a descent

A descent either reads a tree or gets stuck.  This module describes both outcomes by
rules, one for each way in which a production can end, and proves that the rules say
exactly what the functions of the descent compute.  Proofs about the parser are then
inductions over derivations, with the finished parts of a run at hand by name.

Main results:

- Theorem `reads_iff`: the rules for readings derive exactly the trees that are
  returned.
- Theorem `fails_iff`: the rules for failures derive exactly the places where a
  descent gets stuck.
- Theorems `complete_eq_ok` and `complete_eq_error`: the same for expressions that
  have to reach up to the end of the input.
-/

namespace LoxExpr.Grammar

/-! ## Tasks -/

/-- What a descent has to do: follow a production, or go on with a chain behind what
it has so far. -/
inductive Task
  | follow (p : Production)
  | extend (level : Chain) (left : Expr)

/-- Carries out a task. -/
def perform (budget : Nat) : Task → List Token → Reading
  | .follow p, ts => production budget p ts
  | .extend level left, ts => continueChain budget level left ts

/-! ## Rules -/

/-- The readings of a task: a tree, and the tokens behind it. -/
inductive Reads : Nat → Task → List Token → Expr → List Token → Prop
  | expression {b ts e rest} :
    Reads b (.follow (.chain .sequence)) ts e rest →
    Reads b (.follow .expression) ts e rest
  | chain {b level ts left middle e rest} :
    Reads b (.follow level.operand) ts left middle →
    Reads b (.extend level left) middle e rest →
    Reads b (.follow (.chain level)) ts e rest
  | condition {b ts e rest} :
    Reads b (.follow (.chain .equality)) ts e rest →
    startsWith .questionMark rest = false →
    Reads b (.follow .conditional) ts e rest
  | conditional {b ts c q afterQuestion p k afterColon n rest} :
    Reads (b + 1) (.follow (.chain .equality)) ts c (q :: afterQuestion) →
    q.mark? = some .questionMark →
    Reads b (.follow .expression) afterQuestion p (k :: afterColon) →
    k.mark? = some .colon →
    Reads b (.follow .expression) afterColon n rest →
    Reads (b + 1) (.follow .conditional) ts (.conditional c p n) rest
  | unary {b t ts e rest} :
    t.isUnary = true →
    Reads b (.follow .unary) ts e rest →
    Reads (b + 1) (.follow .unary) (t :: ts) (.unary t e) rest
  | primary {b t ts e rest} :
    t.isUnary = false →
    Reads b (.follow .primary) (t :: ts) e rest →
    Reads b (.follow .unary) (t :: ts) e rest
  | literal {b t v rest} :
    t.literal? = some v →
    Reads b (.follow .primary) (t :: rest) (.literal v) rest
  | grouping {b t ts e r rest} :
    t.mark? = some .leftParen →
    Reads b (.follow .expression) ts e (r :: rest) →
    r.mark? = some .rightParen →
    Reads (b + 1) (.follow .primary) (t :: ts) (.grouping e) rest
  | finish {b level e ts} :
    (∀ t ∈ ts.head?, t.chain? ≠ some level) →
    Reads b (.extend level e) ts e ts
  | link {b level left t ts right middle e rest} :
    t.chain? = some level →
    Reads b (.follow level.operand) ts right middle →
    Reads b (.extend level (level.join left t right)) middle e rest →
    Reads (b + 1) (.extend level left) (t :: ts) e rest

/-- The failures of a task: where it gets stuck, and why. -/
inductive Fails : Nat → Task → List Token → Stuck → Prop
  | expression {b ts s} :
    Fails b (.follow (.chain .sequence)) ts s →
    Fails b (.follow .expression) ts s
  | operand {b level ts s} :
    Fails b (.follow level.operand) ts s →
    Fails b (.follow (.chain level)) ts s
  | chain {b level ts left middle s} :
    Reads b (.follow level.operand) ts left middle →
    Fails b (.extend level left) middle s →
    Fails b (.follow (.chain level)) ts s
  | condition {b ts s} :
    Fails b (.follow (.chain .equality)) ts s →
    Fails b (.follow .conditional) ts s
  | question {ts c q afterQuestion} :
    Reads 0 (.follow (.chain .equality)) ts c (q :: afterQuestion) →
    q.mark? = some .questionMark →
    Fails 0 (.follow .conditional) ts ⟨.tooDeep, q :: afterQuestion⟩
  | positive {b ts c q afterQuestion s} :
    Reads (b + 1) (.follow (.chain .equality)) ts c (q :: afterQuestion) →
    q.mark? = some .questionMark →
    Fails b (.follow .expression) afterQuestion s →
    Fails (b + 1) (.follow .conditional) ts s
  | colon {b ts c q afterQuestion p rest} :
    Reads (b + 1) (.follow (.chain .equality)) ts c (q :: afterQuestion) →
    q.mark? = some .questionMark →
    Reads b (.follow .expression) afterQuestion p rest →
    startsWith .colon rest = false →
    Fails (b + 1) (.follow .conditional) ts ⟨.expectedColon, rest⟩
  | negative {b ts c q afterQuestion p k afterColon s} :
    Reads (b + 1) (.follow (.chain .equality)) ts c (q :: afterQuestion) →
    q.mark? = some .questionMark →
    Reads b (.follow .expression) afterQuestion p (k :: afterColon) →
    k.mark? = some .colon →
    Fails b (.follow .expression) afterColon s →
    Fails (b + 1) (.follow .conditional) ts s
  | operator {t ts} :
    t.isUnary = true →
    Fails 0 (.follow .unary) (t :: ts) ⟨.tooDeep, t :: ts⟩
  | unary {b t ts s} :
    t.isUnary = true →
    Fails b (.follow .unary) ts s →
    Fails (b + 1) (.follow .unary) (t :: ts) s
  | primary {b ts s} :
    (∀ t ∈ ts.head?, t.isUnary = false) →
    Fails b (.follow .primary) ts s →
    Fails b (.follow .unary) ts s
  | nothing {b ts} :
    (∀ t ∈ ts.head?, t.literal? = none ∧ t.mark? ≠ some .leftParen) →
    Fails b (.follow .primary) ts ⟨.expectedExpression, ts⟩
  | leftParen {t ts} :
    t.mark? = some .leftParen →
    Fails 0 (.follow .primary) (t :: ts) ⟨.tooDeep, t :: ts⟩
  | inner {b t ts s} :
    t.mark? = some .leftParen →
    Fails b (.follow .expression) ts s →
    Fails (b + 1) (.follow .primary) (t :: ts) s
  | rightParen {b t ts e rest} :
    t.mark? = some .leftParen →
    Reads b (.follow .expression) ts e rest →
    startsWith .rightParen rest = false →
    Fails (b + 1) (.follow .primary) (t :: ts) ⟨.expectedRightParen, rest⟩
  | further {level left t ts} :
    t.chain? = some level →
    Fails 0 (.extend level left) (t :: ts) ⟨.tooDeep, t :: ts⟩
  | right {b level left t ts s} :
    t.chain? = some level →
    Fails b (.follow level.operand) ts s →
    Fails (b + 1) (.extend level left) (t :: ts) s
  | link {b level left t ts right middle s} :
    t.chain? = some level →
    Reads b (.follow level.operand) ts right middle →
    Fails b (.extend level (level.join left t right)) middle s →
    Fails (b + 1) (.extend level left) (t :: ts) s

/-- What remains behind a reading is an end of what it was given. -/
theorem Reads.suffix {b : Nat} {task : Task} {ts rest : List Token} {e : Expr}
    (read : Reads b task ts e rest) : rest <:+ ts := by
  induction read with
  | expression _ ih | condition _ _ ih | primary _ _ ih => exact ih
  | literal => exact List.suffix_cons _ _
  | finish => exact List.suffix_refl _
  | chain _ _ ihOperand ihExtend => exact ihExtend.trans ihOperand
  | unary _ _ ih => exact ih.trans (List.suffix_cons _ _)
  | grouping _ _ _ ih =>
    exact (List.suffix_cons _ _).trans (ih.trans (List.suffix_cons _ _))
  | link _ _ _ ihOperand ihExtend =>
    exact ihExtend.trans (ihOperand.trans (List.suffix_cons _ _))
  | conditional _ _ _ _ _ ihCondition ihPositive ihNegative =>
    have positive := ihPositive.trans ((List.suffix_cons _ _).trans ihCondition)
    exact ihNegative.trans ((List.suffix_cons _ _).trans positive)

/-- The tokens of a reading are the consumed ones and the rest. -/
theorem Reads.exists_append {b : Nat} {task : Task} {ts rest : List Token} {e : Expr}
    (read : Reads b task ts e rest) : ∃ used, ts = used ++ rest := by
  rcases read.suffix with ⟨used, whole⟩
  exact ⟨used, whole.symm⟩

/-! ## The rules describe the functions -/

/-- The rule that belongs to a result. -/
def Derives (budget : Nat) (task : Task) (ts : List Token) : Reading → Prop
  | .ok (e, rest) => Reads budget task ts e rest
  | .error s => Fails budget task ts s

@[simp] theorem startsWith_cons (mark : Mark) (t : Token) (rest : List Token) :
    startsWith mark (t :: rest) = (t.mark? == some mark) := rfl

/-- A mark stands in front of a list exactly when its first token is that mark. -/
theorem startsWith_iff {mark : Mark} {ts : List Token} :
    startsWith mark ts = true ↔ ∃ t rest, ts = t :: rest ∧ t.mark? = some mark := by
  cases ts with
  | nil => simp [startsWith]
  | cons t rest => simp

/-- A token that is a mark is not a literal. -/
theorem literal?_eq_none_of_mark? {t : Token} {mark : Mark} (h : t.mark? = some mark) :
    t.literal? = none := by
  rcases t with ⟨symbol, lexeme, line⟩
  cases symbol <;> simp_all [Token.mark?, Token.literal?, Literal.ofSymbol?]

namespace Derives

variable {b b' : Nat} {task task' : Task} {ts ts' : List Token} {result : Reading}

/-- A result is passed on when readings and failures are. -/
theorem imp (derived : Derives b task ts result)
    (reads : ∀ {e rest}, Reads b task ts e rest → Reads b' task' ts' e rest)
    (fails : ∀ {s}, Fails b task ts s → Fails b' task' ts' s) :
    Derives b' task' ts' result := by
  cases result with
  | ok reading => exact reads derived
  | error s => exact fails derived

/-- A result is used by what comes next, unless it is a failure, which is passed on. -/
theorem bind {next : Expr × List Token → Reading} (derived : Derives b task ts result)
    (fails : ∀ {s}, Fails b task ts s → Fails b' task' ts' s)
    (reads : ∀ e rest, Reads b task ts e rest → Derives b' task' ts' (next (e, rest))) :
    Derives b' task' ts' (result.bind next) := by
  cases result with
  | ok reading => exact reads reading.1 reading.2 derived
  | error s => exact fails derived

end Derives

/-- A mark that has to come next is passed, or missed. -/
theorem expect_bind {mark : Mark} {reason : Reason} {ts : List Token}
    {next : List Token → Reading} {P : Reading → Prop}
    (passed : ∀ t rest, ts = t :: rest → t.mark? = some mark → P (next rest))
    (missed : startsWith mark ts = false → P (.error ⟨reason, ts⟩)) :
    P ((expect mark reason ts).bind next) := by
  unfold expect
  cases found : startsWith mark ts with
  | false => exact missed found
  | true =>
    rcases startsWith_iff.1 found with ⟨t, rest, rfl, is⟩
    exact passed t rest rfl is

/-- Every run of the descent follows the rules. -/
theorem derives_perform (budget : Nat) (task : Task) (ts : List Token) :
    Derives budget task ts (perform budget task ts) := by
  have both :
      (∀ b p ts, Derives b (.follow p) ts (production b p ts)) ∧
        ∀ b level left ts, Derives b (.extend level left) ts (continueChain b level left ts) := by
    apply production.mutual_induct
    case case1 =>
      intro b ts ih
      rw [production.eq_def]
      exact ih.imp .expression .expression
    case case2 =>
      intro b level ts ihOperand ihExtend
      rw [production.eq_def]
      exact ihOperand.bind .operand fun left rest read =>
        (ihExtend left rest).imp (.chain read) (.chain read)
    case case3 =>
      intro b ts ihCondition ihBranches
      rw [production.eq_def]
      refine ihCondition.bind .condition fun c rest read => ?_
      cases asked : startsWith .questionMark rest with
      | false =>
        simp only [asked]
        exact Reads.condition read asked
      | true =>
        rcases startsWith_iff.1 asked with ⟨q, afterQuestion, rfl, question⟩
        cases b with
        | zero =>
          simp only [asked, if_true]
          exact Fails.question read question
        | succ b =>
          simp only [asked, if_true]
          rcases ihBranches (q :: afterQuestion) with ⟨ihPositive, ihNegative⟩
          refine ihPositive.bind (.positive read question) fun p rest readPositive => ?_
          refine expect_bind ?_ (.colon read question readPositive)
          rintro k afterColon rfl colon
          refine (ihNegative afterColon).bind (.negative read question readPositive colon) ?_
          exact fun n rest => .conditional read question readPositive colon
    case case4 =>
      intro b ih
      rw [production.eq_def]
      exact ih.imp (fun read => nomatch read) (.primary nofun)
    case case5 =>
      intro t ts operator
      rw [production.eq_def]
      simp only [operator, if_true]
      exact .operator operator
    case case6 =>
      intro t ts operator b ih
      rw [production.eq_def]
      simp only [operator, if_true]
      exact ih.bind (.unary operator) fun right rest => .unary operator
    case case7 =>
      intro b t ts notOperator ih
      rw [production.eq_def]
      simp only [notOperator]
      rw [Bool.not_eq_true] at notOperator
      exact ih.imp (.primary notOperator) (.primary (by simpa using notOperator))
    case case8 =>
      intro b
      rw [production.eq_def]
      exact .nothing nofun
    case case9 =>
      intro b t ts v is
      rw [production_primary_literal is]
      exact .literal is
    case case10 =>
      intro t ts noLiteral opens
      rw [production.eq_def]
      simp only [noLiteral, opens, if_true]
      exact .leftParen opens
    case case11 =>
      intro t ts noLiteral opens b ih
      rw [production.eq_def]
      simp only [noLiteral, opens, if_true]
      refine ih.bind (.inner opens) fun e rest read => ?_
      refine expect_bind ?_ (.rightParen opens read)
      rintro r rest rfl closes
      exact .grouping opens read closes
    case case12 =>
      intro b t ts noLiteral notOpening
      rw [production.eq_def]
      simp only [noLiteral, notOpening, if_false]
      exact .nothing (by simpa using ⟨noLiteral, notOpening⟩)
    case case13 =>
      intro b level left
      rw [continueChain_nil]
      exact .finish nofun
    case case14 =>
      intro level left t ts operator
      rw [continueChain_zero operator]
      exact .further operator
    case case15 =>
      intro level left t ts operator b ihOperand ihExtend
      rw [continueChain_succ operator]
      exact ihOperand.bind (.right operator) fun right rest read =>
        (ihExtend right rest).imp (.link operator read) (.link operator read)
    case case16 =>
      intro b level left t ts notOperator
      rw [continueChain_of_ne notOperator]
      exact .finish (by simpa using notOperator)
  cases task with
  | follow p => exact both.1 budget p ts
  | extend level left => exact both.2 budget level left ts

/-- The rules for readings derive only what the descent returns. -/
theorem Reads.perform_eq {b : Nat} {task : Task} {ts rest : List Token} {e : Expr}
    (read : Reads b task ts e rest) : perform b task ts = .ok (e, rest) := by
  induction read with simp only [perform] at *
  | expression _ ih =>
    rw [production.eq_def]
    exact ih
  | chain _ _ ihOperand ihExtend =>
    rw [production.eq_def]
    simp [ihOperand, ihExtend, bind, Except.bind]
  | condition _ asked ih =>
    rw [production.eq_def]
    simp [ih, asked, bind, Except.bind]
  | conditional _ question _ colon _ ihCondition ihPositive ihNegative =>
    rw [production.eq_def]
    simp [ihCondition, question, ihPositive, expect, colon, ihNegative, bind, Except.bind]
  | unary operator _ ih =>
    rw [production.eq_def]
    simp [operator, ih, bind, Except.bind]
  | primary notOperator _ ih =>
    rw [production.eq_def]
    simp [notOperator, ih]
  | literal is => exact production_primary_literal is _ _
  | grouping opens _ closes ih =>
    rw [production.eq_def]
    simp [literal?_eq_none_of_mark? opens, opens, ih, expect, closes, bind, Except.bind]
  | @finish _ _ _ ts noOperator =>
    cases ts with
    | nil => exact continueChain_nil _ _ _
    | cons t rest => exact continueChain_of_ne (noOperator t rfl) _ _ _
  | link operator _ _ ihOperand ihExtend =>
    rw [continueChain_succ operator]
    simp [ihOperand, ihExtend, Except.bind]

/-- What the rules derive for a production is what the production returns. -/
theorem Reads.production_eq {b : Nat} {p : Production} {ts rest : List Token} {e : Expr}
    (read : Reads b (.follow p) ts e rest) : production b p ts = .ok (e, rest) :=
  read.perform_eq

/-- The rules for failures derive only where the descent gets stuck. -/
theorem Fails.perform_eq {b : Nat} {task : Task} {ts : List Token} {s : Stuck}
    (failed : Fails b task ts s) : perform b task ts = .error s := by
  induction failed with simp only [perform] at *
  | expression _ ih =>
    rw [production.eq_def]
    exact ih
  | operand _ ih =>
    rw [production.eq_def]
    simp [ih, bind, Except.bind]
  | chain read _ ih =>
    rw [production.eq_def]
    simp [read.production_eq, ih, bind, Except.bind]
  | condition _ ih =>
    rw [production.eq_def]
    simp [ih, bind, Except.bind]
  | question read question =>
    rw [production.eq_def]
    simp [read.production_eq, question, bind, Except.bind]
  | positive read question _ ih =>
    rw [production.eq_def]
    simp [read.production_eq, question, ih, bind, Except.bind]
  | colon read question readPositive noColon =>
    rw [production.eq_def]
    simp [read.production_eq, question, readPositive.production_eq, expect, noColon,
      bind, Except.bind]
  | negative read question readPositive colon _ ih =>
    rw [production.eq_def]
    simp [read.production_eq, question, readPositive.production_eq, expect, colon, ih,
      bind, Except.bind]
  | operator operator =>
    rw [production.eq_def]
    simp [operator]
  | unary operator _ ih =>
    rw [production.eq_def]
    simp [operator, ih, bind, Except.bind]
  | @primary _ ts _ notOperator _ ih =>
    rw [production.eq_def]
    cases ts with
    | nil => exact ih
    | cons t rest => simp [notOperator t rfl, ih]
  | @nothing _ ts hneither =>
    rw [production.eq_def]
    cases ts with
    | nil => rfl
    | cons t rest => simp [hneither t rfl]
  | leftParen opens =>
    rw [production.eq_def]
    simp [literal?_eq_none_of_mark? opens, opens]
  | inner opens _ ih =>
    rw [production.eq_def]
    simp [literal?_eq_none_of_mark? opens, opens, ih, bind, Except.bind]
  | rightParen opens read notClosed =>
    rw [production.eq_def]
    simp [literal?_eq_none_of_mark? opens, opens, read.production_eq, expect, notClosed,
      bind, Except.bind]
  | further operator => exact continueChain_zero operator _ _
  | right operator _ ih =>
    rw [continueChain_succ operator]
    simp [ih, Except.bind]
  | link operator read _ ih =>
    rw [continueChain_succ operator]
    simp [read.production_eq, ih, Except.bind]

/-- Readings are derived exactly when they are returned. -/
theorem reads_iff {b : Nat} {task : Task} {ts rest : List Token} {e : Expr} :
    Reads b task ts e rest ↔ perform b task ts = .ok (e, rest) := by
  constructor
  · exact Reads.perform_eq
  · intro returned
    have derived := derives_perform b task ts
    rw [returned] at derived
    exact derived

/-- Failures are derived exactly when the descent gets stuck. -/
theorem fails_iff {b : Nat} {task : Task} {ts : List Token} {s : Stuck} :
    Fails b task ts s ↔ perform b task ts = .error s := by
  constructor
  · exact Fails.perform_eq
  · intro returned
    have derived := derives_perform b task ts
    rw [returned] at derived
    exact derived

/-! ## Complete expressions -/

/-- A complete expression is one that is read up to the end. -/
theorem complete_eq_ok {limit : Nat} {ts rest : List Token} {e : Expr} :
    complete limit ts = .ok (e, rest) ↔
      Reads limit (.follow .expression) ts e rest ∧ atEnd rest = true := by
  rw [reads_iff]
  unfold complete
  simp only [perform]
  cases production limit .expression ts with
  | error s => simp [bind, Except.bind]
  | ok reading =>
    rcases reading with ⟨e', rest'⟩
    simp only [bind, Except.bind]
    cases ends : atEnd rest' <;> grind

/-- A list is no complete expression if the descent gets stuck, or ends early. -/
theorem complete_eq_error {limit : Nat} {ts : List Token} {s : Stuck} :
    complete limit ts = .error s ↔
      Fails limit (.follow .expression) ts s ∨
        ∃ e rest, Reads limit (.follow .expression) ts e rest ∧ atEnd rest = false ∧
          s = ⟨.expectedEnd, rest⟩ := by
  simp only [fails_iff, reads_iff]
  unfold complete
  simp only [perform]
  cases production limit .expression ts with
  | error s => simp [bind, Except.bind]
  | ok reading =>
    rcases reading with ⟨e', rest'⟩
    simp only [bind, Except.bind]
    cases ends : atEnd rest' <;> grind

end LoxExpr.Grammar

namespace LoxExpr

/-- A parse returns the trees that are complete expressions within the limit. -/
theorem parse_eq_ok {ts : List Token} {e : Expr} :
    parse ts = .ok e ↔ ∃ rest, Grammar.complete Grammar.maxDepth ts = .ok (e, rest) := by
  unfold parse Session.parse
  simp only [Session.start, Session.rest, List.drop_zero]
  cases Grammar.complete Grammar.maxDepth ts with
  | error s => simp
  | ok reading =>
    rcases reading with ⟨e', rest⟩
    simp

end LoxExpr
