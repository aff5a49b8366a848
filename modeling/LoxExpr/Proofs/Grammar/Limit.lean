import LoxExpr.Proofs.Grammar.Failure
import LoxExpr.Proofs.Grammar.Session
import LoxExpr.Proofs.Grammar.Unlimited

/-!
# The limit for the nesting

What the limit changes about a descent.  A budget is spent on tokens, so one unit for each
token is never used up, and what a budget is enough for is the same without one.  Where a
budget is used up there is a token, and a descent without a limit passes it.

Main results:

- Theorems `Unlimited.perform_of_reads` and `Unlimited.perform_of_fails`: what a descent
  with a limit does, unless it is too deep, is what the one without a limit does.
- Theorem `Unlimited.within_of_tooDeep`: where the limit is used up, the descent without
  one passes the next token.
- Theorem `Session.parse_limited`: the limit changes the outcome of a parse only where it
  is too deep, and a tree is too deep exactly if it is nested more deeply than the limit.
-/

namespace LoxExpr

namespace Grammar

namespace Unlimited

/-! ## The same readings and failures -/

/-- Carries out a task without a limit. -/
def perform : Task → List Token → Reading
  | .follow p, ts => production p ts
  | .extend level left, ts => continueChain level left ts

/-- What is read within a limit is read without one. -/
theorem perform_of_reads {b : Nat} {task : Task} {ts rest : List Token} {e : Expr}
    (read : Reads b task ts e rest) : perform task ts = .ok (e, rest) := by
  induction read with simp only [perform] at *
  | expression _ ih =>
    rw [production_expression]
    exact ih
  | chain _ _ ihOperand ihExtend =>
    rw [production_chain]
    simp [ihOperand, ihExtend]
  | condition _ asked ih =>
    rw [production_conditional]
    simp [ih, asked]
  | conditional _ question _ colon _ ihCondition ihPositive ihNegative =>
    rw [production_conditional]
    simp [ihCondition, question, ihPositive, expect, colon, ihNegative]
  | unary operator _ ih =>
    rw [production_unary]
    simp [operator, ih]
  | primary notOperator _ ih =>
    rw [production_unary]
    simp [notOperator, ih]
  | literal is =>
    rw [production_primary]
    simp [is]
  | grouping opens _ closes ih =>
    rw [production_primary]
    simp [literal?_eq_none_of_mark? opens, opens, ih, expect, closes]
  | @finish _ _ _ ts noOperator =>
    rw [continueChain_eq]
    cases ts with
    | nil => rfl
    | cons t rest => simp [noOperator t rfl]
  | link operator _ _ ihOperand ihExtend =>
    rw [continueChain_eq]
    simp [operator, ihOperand, ihExtend]

/-- What a production reads within a limit, it reads without one. -/
theorem production_of_reads {b : Nat} {p : Production} {ts rest : List Token} {e : Expr}
    (read : Reads b (.follow p) ts e rest) : production p ts = .ok (e, rest) :=
  perform_of_reads read

/-- Where a descent gets stuck for another reason than its depth, one without a limit gets
stuck as well. -/
theorem perform_of_fails {b : Nat} {task : Task} {ts : List Token} {s : Stuck}
    (failed : Fails b task ts s) (other : s.reason ≠ .tooDeep) : perform task ts = .error s := by
  induction failed with simp only [perform] at *
  | expression _ ih =>
    rw [production_expression]
    exact ih other
  | operand _ ih =>
    rw [production_chain]
    simp [ih other]
  | chain read _ ih =>
    rw [production_chain]
    simp [production_of_reads read, ih other]
  | condition _ ih =>
    rw [production_conditional]
    simp [ih other]
  | question | operator | leftParen | further => exact absurd rfl other
  | positive read question _ ih =>
    rw [production_conditional]
    simp [production_of_reads read, question, ih other]
  | colon read question readPositive noColon =>
    rw [production_conditional]
    simp [production_of_reads read, question, production_of_reads readPositive, expect, noColon]
  | negative read question readPositive colon _ ih =>
    rw [production_conditional]
    simp [production_of_reads read, question, production_of_reads readPositive, expect, colon,
      ih other]
  | unary operator _ ih =>
    rw [production_unary]
    simp [operator, ih other]
  | @primary _ ts _ notOperator _ ih =>
    rw [production_unary]
    cases ts with
    | nil => exact ih other
    | cons t rest => simp [notOperator t rfl, ih other]
  | @nothing _ ts hneither =>
    rw [production_primary]
    cases ts with
    | nil => rfl
    | cons t rest => simp [hneither t rfl]
  | inner opens _ ih =>
    rw [production_primary]
    simp [literal?_eq_none_of_mark? opens, opens, ih other]
  | rightParen opens read notClosed =>
    rw [production_primary]
    simp [literal?_eq_none_of_mark? opens, opens, production_of_reads read, expect, notClosed]
  | right operator _ ih =>
    rw [continueChain_eq]
    simp [operator, ih other]
  | link operator read _ ih =>
    rw [continueChain_eq]
    simp [operator, production_of_reads read, ih other]

end Unlimited

/-! ## What a limit can cost -/

/-- A budget that is used up was spent on tokens in front of the place where more of it was
needed. -/
theorem Fails.budget_add_length_le {b : Nat} {task : Task} {ts : List Token} {s : Stuck}
    (failed : Fails b task ts s) (deep : s.reason = .tooDeep) :
    b + s.rest.length ≤ ts.length ∧ s.rest ≠ [] := by
  induction failed with
  | expression _ ih | operand _ ih | condition _ ih | primary _ _ ih => exact ih deep
  | chain read _ ih =>
    rcases ih deep with ⟨bound, found⟩
    have first := read.suffix.length_le
    exact ⟨by omega, found⟩
  | question read _ =>
    have first := read.suffix.length_le
    exact ⟨by simpa using first, List.cons_ne_nil _ _⟩
  | positive read _ _ ih =>
    rcases ih deep with ⟨bound, found⟩
    have first := read.suffix.length_le
    rw [List.length_cons] at first
    exact ⟨by omega, found⟩
  | negative read _ readPositive _ _ ih =>
    rcases ih deep with ⟨bound, found⟩
    have first := read.suffix.length_le
    have second := readPositive.suffix.length_le
    rw [List.length_cons] at first second
    exact ⟨by omega, found⟩
  | link _ read _ ih =>
    rcases ih deep with ⟨bound, found⟩
    have first := read.suffix.length_le
    rw [List.length_cons]
    exact ⟨by omega, found⟩
  | unary _ _ ih | inner _ _ ih | right _ _ ih =>
    rcases ih deep with ⟨bound, found⟩
    rw [List.length_cons]
    exact ⟨by omega, found⟩
  | operator | leftParen | further => exact ⟨by simp, List.cons_ne_nil _ _⟩
  | colon | nothing | rightParen => contradiction

/-- A budget of one unit for each token is enough. -/
theorem Fails.reason_ne_tooDeep {b : Nat} {task : Task} {ts : List Token} {s : Stuck}
    (failed : Fails b task ts s) (enough : ts.length ≤ b) : s.reason ≠ .tooDeep := by
  intro deep
  rcases failed.budget_add_length_le deep with ⟨bound, found⟩
  have := List.length_pos_iff.2 found
  omega

/-- A failure is found at what remains of the tokens. -/
theorem Fails.length_le {b : Nat} {task : Task} {ts : List Token} {s : Stuck}
    (failed : Fails b task ts s) : s.rest.length ≤ ts.length := by
  rcases failed.repairable with ⟨used, whole, _⟩
  rw [whole, List.length_append]
  exact Nat.le_add_left _ _

namespace Unlimited

/-! ## Behind the place where a limit was missing -/

/-- Whether a reading ends with at most a number of tokens left, and is not too deep. -/
def Within (n : Nat) : Reading → Prop
  | .ok (_, rest) => rest.length ≤ n
  | .error s => s.reason ≠ .tooDeep ∧ s.rest.length ≤ n

namespace Within

variable {n : Nat} {reading : Reading}

/-- Fewer tokens than a number are fewer than a greater one. -/
theorem mono {m : Nat} (within : Within m reading) (le : m ≤ n) : Within n reading := by
  cases reading with
  | ok parsed => exact Nat.le_trans within le
  | error s => exact ⟨within.1, Nat.le_trans within.2 le⟩

/-- What goes on with what remains stays within it. -/
theorem bind (within : Within n reading) {next : Expr × List Token → Reading}
    (later : ∀ e rest, rest.length ≤ n → Within n (next (e, rest))) :
    Within n (reading >>= next) := by
  cases reading with
  | ok parsed => exact later parsed.1 parsed.2 within
  | error s => exact within

/-- A mark that has to come next is passed within what remains, or missed there. -/
theorem expect_bind {mark : Mark} {reason : Reason} {ts : List Token} (bound : ts.length ≤ n)
    (other : reason ≠ .tooDeep) {next : List Token → Reading}
    (later : ∀ rest, rest.length ≤ n → Within n (next rest)) :
    Within n (expect mark reason ts >>= next) := by
  unfold expect
  split
  · rw [ok_bind]
    apply later
    rw [List.length_tail]
    omega
  · exact ⟨other, bound⟩

end Within

/-- A descent without a limit leaves no more than it was given. -/
theorem within_perform (task : Task) (ts : List Token) : Within ts.length (perform task ts) := by
  -- With one unit of budget for each token, the descent with a limit does not miss any.
  have derived := derives_perform ts.length task ts
  cases result : Grammar.perform ts.length task ts with
  | ok parsed =>
    rw [result] at derived
    have read : Reads ts.length task ts parsed.1 parsed.2 := derived
    rw [perform_of_reads read]
    exact read.suffix.length_le
  | error s =>
    rw [result] at derived
    have failed : Fails ts.length task ts s := derived
    have other := failed.reason_ne_tooDeep (Nat.le_refl _)
    rw [perform_of_fails failed other]
    exact ⟨other, failed.length_le⟩

/-- A production without a limit leaves no more than it was given. -/
theorem within_production (p : Production) {ts : List Token} {n : Nat} (bound : ts.length ≤ n) :
    Within n (production p ts) :=
  (within_perform (.follow p) ts).mono bound

/-- A chain without a limit leaves no more than it goes on with. -/
theorem within_continueChain (level : Chain) (left : Expr) {ts : List Token} {n : Nat}
    (bound : ts.length ≤ n) : Within n (continueChain level left ts) :=
  (within_perform (.extend level left) ts).mono bound

/-- Behind the first branch of a conditional, its other branch stays within what remains. -/
theorem Within.branches {n : Nat} {reading : Reading} (positive : Within n reading) (c : Expr) :
    Within n (do
      let (p, rest) ← reading
      let rest ← expect .colon .expectedColon rest
      let (n, rest) ← production .expression rest
      .ok (.conditional c p n, rest)) := by
  refine positive.bind fun p rest bound => Within.expect_bind bound (by decide) fun rest bound => ?_
  exact (within_production .expression bound).bind fun n rest bound => bound

/-- Behind the inner tree of a grouping, its end stays within what remains. -/
theorem Within.closing {n : Nat} {reading : Reading} (inner : Within n reading) :
    Within n (do
      let (e, rest) ← reading
      let rest ← expect .rightParen .expectedRightParen rest
      .ok (.grouping e, rest)) :=
  inner.bind fun _ _ bound => Within.expect_bind bound (by decide) fun _ bound => bound

/-- Where a limit is used up, a descent without one passes the token that is found there. -/
theorem within_of_tooDeep {b : Nat} {task : Task} {ts : List Token} {s : Stuck} {t : Token}
    {later : List Token} (failed : Fails b task ts s) (deep : s.reason = .tooDeep)
    (found : s.rest = t :: later) : Within later.length (perform task ts) := by
  induction failed with simp only [perform] at *
  | expression _ ih =>
    rw [production_expression]
    exact ih deep found
  | operand _ ih =>
    rw [production_chain]
    exact (ih deep found).bind fun left rest bound => within_continueChain _ _ bound
  | chain read _ ih =>
    rw [production_chain]
    simp only [production_of_reads read, ok_bind]
    exact ih deep found
  | condition _ ih =>
    rw [production_conditional]
    refine (ih deep found).bind fun c rest bound => ?_
    simp only
    split
    · apply Within.branches
      apply within_production
      rw [List.length_tail]
      omega
    · exact bound
  | question read question =>
    cases found
    rw [production_conditional]
    simp only [production_of_reads read, ok_bind, startsWith_cons, question, beq_self_eq_true,
      if_true]
    exact (within_production .expression (Nat.le_refl _)).branches _
  | positive read question _ ih =>
    rw [production_conditional]
    simp only [production_of_reads read, ok_bind, startsWith_cons, question, beq_self_eq_true,
      if_true]
    exact (ih deep found).branches _
  | negative read question readPositive colon _ ih =>
    rw [production_conditional]
    simp only [production_of_reads read, production_of_reads readPositive, ok_bind, expect,
      startsWith_cons, question, colon, beq_self_eq_true, if_true, List.tail_cons]
    exact (ih deep found).bind fun n rest bound => bound
  | @operator u us operator =>
    cases found
    rw [production_unary]
    simp only [operator, if_true]
    exact (within_production .unary (Nat.le_refl _)).bind fun e rest bound => bound
  | unary operator _ ih =>
    rw [production_unary]
    simp only [operator, if_true]
    exact (ih deep found).bind fun e rest bound => bound
  | @primary _ us _ notOperator _ ih =>
    rw [production_unary]
    cases us with
    | nil => exact ih deep found
    | cons u us =>
      simp only [notOperator u rfl]
      exact ih deep found
  | leftParen opens =>
    cases found
    rw [production_primary]
    simp only [literal?_eq_none_of_mark? opens, opens, if_true]
    exact (within_production .expression (Nat.le_refl _)).closing
  | inner opens _ ih =>
    rw [production_primary]
    simp only [literal?_eq_none_of_mark? opens, opens, if_true]
    exact (ih deep found).closing
  | further operator =>
    cases found
    rw [continueChain_eq]
    simp only [operator, if_true]
    refine (within_production _ (Nat.le_refl _)).bind fun right rest bound => ?_
    exact within_continueChain _ _ bound
  | right operator _ ih =>
    rw [continueChain_eq]
    simp only [operator, if_true]
    exact (ih deep found).bind fun right rest bound => within_continueChain _ _ bound
  | link operator read _ ih =>
    rw [continueChain_eq]
    simp only [operator, if_true, production_of_reads read, ok_bind]
    exact ih deep found
  | colon | nothing | rightParen => contradiction

/-! ## Complete expressions -/

variable {limit : Nat} {ts : List Token}

/-- What is a complete expression within a limit is one without. -/
theorem complete_of_ok {e : Expr} {rest : List Token}
    (returned : Grammar.complete limit ts = .ok (e, rest)) : complete ts = .ok (e, rest) := by
  rcases complete_eq_ok.1 returned with ⟨read, ends⟩
  simp [complete, production_of_reads read, ends]

/-- A failure for another reason than the depth is the same without a limit. -/
theorem complete_of_error {s : Stuck} (failed : Grammar.complete limit ts = .error s)
    (other : s.reason ≠ .tooDeep) : complete ts = .error s := by
  rcases complete_eq_error.1 failed with stuck | ⟨e, rest, read, more, rfl⟩
  · have same : production .expression ts = .error s := perform_of_fails stuck other
    simp [complete, same]
  · simp [complete, production_of_reads read, more]

/-- A descent without a limit is one with a unit of budget for each token. -/
theorem complete_eq (ts : List Token) : complete ts = Grammar.complete ts.length ts := by
  cases result : Grammar.complete ts.length ts with
  | ok parsed => exact complete_of_ok result
  | error s =>
    apply complete_of_error result
    rcases complete_eq_error.1 result with stuck | ⟨e, rest, _, _, rfl⟩
    · exact stuck.reason_ne_tooDeep (Nat.le_refl _)
    · exact nofun

/-- Where a limit is used up, there is a token, and a descent without a limit passes it. -/
theorem complete_of_tooDeep {s : Stuck} (failed : Grammar.complete limit ts = .error s)
    (deep : s.reason = .tooDeep) :
    ∃ t later, s.rest = t :: later ∧ Within later.length (complete ts) := by
  rcases complete_eq_error.1 failed with stuck | ⟨e, rest, _, _, rfl⟩
  · rcases List.exists_cons_of_ne_nil (stuck.budget_add_length_le deep).2 with ⟨t, later, found⟩
    have within : Within later.length (production .expression ts) :=
      within_of_tooDeep stuck deep found
    refine ⟨t, later, found, within.bind fun e rest bound => ?_⟩
    simp only
    split
    · exact bound
    · exact ⟨nofun, bound⟩
  · contradiction

end Unlimited

/-- A tree that is a complete expression within some limit is one within every limit up to
which it is nested. -/
theorem complete_of_nest_le {limit other : Nat} {ts rest : List Token} {e : Expr}
    (returned : complete other ts = .ok (e, rest)) (nest : e.nest ≤ limit) :
    ∃ rest, complete limit ts = .ok (e, rest) := by
  rcases complete_eq_ok_iff.1 ⟨rest, returned⟩ with ⟨canonical, _, spelled⟩
  exact complete_eq_ok_iff.2 ⟨canonical, nest, spelled⟩

end Grammar

/-! ## Parses -/

/-- Whether a parse gave up because of the depth. -/
def TooDeep : Except ParseError Expr → Prop
  | .ok _ => False
  | .error failure => failure.reason = .tooDeep

namespace Session

/-- Parses one expression, however deeply it is nested. -/
def parseUnlimited (s : Session) : Except ParseError Expr × Session :=
  s.conclude (Grammar.Unlimited.complete s.rest)

/-- Where a parse gives up because of the depth, an unlimited parse moves on.  It returns a
tree only if that is nested more deeply than the limit. -/
theorem parseUnlimited_of_tooDeep {s : Session} {stuck : Grammar.Stuck}
    (failed : Grammar.complete Grammar.maxDepth s.rest = .error stuck)
    (deep : stuck.reason = .tooDeep) :
    ¬TooDeep s.parseUnlimited.1 ∧
      (s.stoppedAt stuck).position < s.parseUnlimited.2.position ∧
      ∀ e, s.parseUnlimited.1 = .ok e → Grammar.maxDepth < e.nest := by
  rcases Grammar.Unlimited.complete_of_tooDeep failed deep with ⟨t, later, found, within⟩
  have inside : stuck.rest.length ≤ s.tokens.length := by
    rcases Grammar.exists_append_of_complete failed with ⟨used, whole⟩
    have count := congrArg List.length whole
    simp only [rest, List.length_drop, List.length_append] at count
    omega
  have passes : ∀ rest : List Token, rest.length ≤ later.length →
      (s.stoppedAt stuck).position < (s.moveTo rest).position := by
    intro rest bound
    rw [found, List.length_cons] at inside
    simp only [stoppedAt, moveTo, found, List.length_cons]
    omega
  unfold parseUnlimited
  cases unlimited : Grammar.Unlimited.complete s.rest with
  | ok parsed =>
    rcases parsed with ⟨e, rest⟩
    rw [unlimited] at within
    refine ⟨id, passes rest within, ?_⟩
    rintro _ ⟨⟩
    by_contra low
    rw [Grammar.Unlimited.complete_eq] at unlimited
    rcases Grammar.complete_of_nest_le unlimited (Nat.le_of_not_lt low) with ⟨_, limited⟩
    rw [failed] at limited
    contradiction
  | error other =>
    rw [unlimited] at within
    refine ⟨within.1, passes other.rest within.2, fun e returned => ?_⟩
    contradiction

/-- The limit makes no difference but for the inputs that are too deep.  A parse that does
not give up because of the depth gives the result of an unlimited parse, with the same
position and the same reports.  One that gives up does so at a token that an unlimited
parse passes.  And if an unlimited parse returns a tree, then a parse gives up exactly if
the tree is nested more deeply than the limit. -/
theorem parse_limited (s : Session) :
    ¬TooDeep s.parseUnlimited.1 ∧
      (¬TooDeep s.parse.1 → s.parse = s.parseUnlimited) ∧
      (TooDeep s.parse.1 → s.parse.2.position < s.parseUnlimited.2.position) ∧
      ∀ e, s.parseUnlimited.1 = .ok e → (TooDeep s.parse.1 ↔ Grammar.maxDepth < e.nest) := by
  rw [s.parse_eq_conclude]
  cases limited : Grammar.complete Grammar.maxDepth s.rest with
  | ok parsed =>
    rcases parsed with ⟨e, rest⟩
    have nest := (Grammar.complete_eq_ok_iff.1 ⟨rest, limited⟩).2.1
    rw [parseUnlimited, Grammar.Unlimited.complete_of_ok limited]
    refine ⟨id, fun _ => rfl, False.elim, ?_⟩
    rintro _ ⟨⟩
    exact iff_of_false id (Nat.not_lt.2 nest)
  | error stuck =>
    by_cases deep : stuck.reason = .tooDeep
    · rcases parseUnlimited_of_tooDeep limited deep with ⟨notDeep, moves, trees⟩
      exact ⟨notDeep, fun shallow => absurd deep shallow, fun _ => moves,
        fun e returned => iff_of_true deep (trees e returned)⟩
    · rw [parseUnlimited, Grammar.Unlimited.complete_of_error limited deep]
      refine ⟨deep, fun _ => rfl, fun tooDeep => absurd tooDeep deep, fun e returned => ?_⟩
      contradiction

end Session

end LoxExpr
