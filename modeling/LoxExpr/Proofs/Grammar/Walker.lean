import LoxExpr.Proofs.Grammar.Failure
import LoxExpr.Proofs.Grammar.Session

/-!
# Walkers

A descent in single steps, as a program that walks over the tokens.  A walker keeps its
position and counts the levels at which it is.  Every construct that succeeds gives its
levels back, a failure is reported on the spot, and the count stays where the failure found
it until the next parse starts from zero.

The calls of a walker are nested, and there is room for a fixed number of them.  A program
that needs more has no outcome.  It is a result that no program does: the count of levels
bounds the calls as well, whatever the tokens are.

Main results:

- Theorems `Walk.perform_of_reads` and `Walk.perform_of_fails`: a walker reads what a descent
  reads with the levels that are left as its budget, and gets stuck where that gets stuck.
- Theorem `Walk.run_apply`: whatever it is asked for, a walker gives the answers of a session
  and comes to the state of that session, whatever it has counted before.
-/

namespace LoxExpr

/-- A session that counts the levels at which it is. -/
structure Walker where
  session : Session
  depth : Nat

/-- Programs of walkers: they can fail, and they have no outcome if there is no room for
their calls. -/
abbrev Walk := ExceptT ParseError (StateT Walker Option)

namespace Walk

/-! ## Steps -/

/-- Shows the next token. -/
def peek : Walk Token :=
  return (← get).session.peek

/-- Reports a failure at the next token. -/
def fail {α : Type} (reason : Reason) : Walk α := do
  let failure : ParseError := ⟨reason, ← peek⟩
  modify fun w => { w with session.reported := w.session.reported ++ [failure.diagnostic] }
  throw failure

/-- Passes the next token, unless it is the end. -/
def advance : Walk Token := do
  let t ← peek
  unless t.isEnd do
    modify fun w => { w with session.position := w.session.position + 1 }
  return t

/-- Enters one more level. -/
def deepen : Walk Unit := do
  if Grammar.maxDepth ≤ (← get).depth then fail .tooDeep
  else modify fun w => { w with depth := w.depth + 1 }

/-- Passes a mark that has to come next. -/
def expect (mark : Mark) (reason : Reason) : Walk Unit := do
  if (← peek).mark? = some mark then
    let _ ← advance
  else fail reason

/-! ## Productions -/

/-- Ends without an outcome. -/
def overflow {α : Type} : Walk α :=
  ExceptT.mk fun _ => none

mutual

/-- Follows a production, with room for a number of nested calls. -/
def production (room : Nat) (p : Production) : Walk Expr :=
  match room with
  | 0 => overflow
  | room + 1 =>
    match p with
    | .expression => production room (.chain .sequence)
    | .chain level => do
      let depth := (← get).depth
      let left ← production room level.operand
      let e ← continueChain room level left
      modify fun w => { w with depth := depth }
      return e
    | .conditional => do
      let condition ← production room (.chain .equality)
      if (← peek).mark? = some .questionMark then
        let depth := (← get).depth
        deepen
        let _ ← advance
        let positive ← production room .expression
        expect .colon .expectedColon
        let negative ← production room .expression
        modify fun w => { w with depth := depth }
        return .conditional condition positive negative
      else return condition
    | .unary => do
      if (← peek).isUnary then
        let depth := (← get).depth
        deepen
        let operator ← advance
        let right ← production room .unary
        modify fun w => { w with depth := depth }
        return .unary operator right
      else production room .primary
    | .primary => do
      let t ← peek
      match t.literal? with
      | some value =>
        let _ ← advance
        return .literal value
      | none =>
        if t.mark? = some .leftParen then
          let depth := (← get).depth
          deepen
          let _ ← advance
          let inner ← production room .expression
          expect .rightParen .expectedRightParen
          modify fun w => { w with depth := depth }
          return .grouping inner
        else fail .expectedExpression

/-- Continues a chain behind what it has so far, with room for a number of nested calls. -/
def continueChain (room : Nat) (level : Chain) (left : Expr) : Walk Expr :=
  match room with
  | 0 => overflow
  | room + 1 => do
    if (← peek).chain? = some level then
      deepen
      let operator ← advance
      let right ← production room level.operand
      continueChain room level (level.join left operator right)
    else return left

end

/-- The number of nested calls for which there is room. -/
def capacity : Nat :=
  10 * (Grammar.maxDepth + 1)

/-! ## Calls -/

/-- Parses one expression that has to reach up to the end. -/
def parse : Walk Expr := do
  modify fun w => { w with depth := 0 }
  let e ← production capacity .expression
  if (← peek).isEnd then return e else fail .expectedEnd

/-- The token in front of the next one. -/
def previous? : Walk (Option Token) := do
  let s := (← get).session
  return if s.position = 0 then none else s.tokens[s.position - 1]?

/-- Skips at most a number of tokens up to a place where a statement can begin, and tells
which. -/
def skip : Nat → Walk (List Token)
  | 0 => return []
  | most + 1 => do
    let t ← peek
    if t.isEnd || (← previous?).any (·.mark? == some .semicolon) || t.startsStatement then
      return []
    else
      let _ ← advance
      return t :: (← skip most)

/-- Skips to the next place where a statement can begin. -/
def synchronize : Walk (List Token) := do
  let _ ← advance
  skip (← get).session.rest.length

/-- Answers one call. -/
def answer : Session.Call → Walk Session.Answer
  | .parse => return .parsed (← observing parse)
  | .synchronize => return .synchronized (← synchronize)
  | .peek => return .peeked (← peek)

/-- Answers calls one after the other. -/
def run (calls : List Session.Call) : Walk (List Session.Answer) :=
  calls.mapM answer

/-! ## Carrying out programs -/

section

variable {α β : Type}

/-- A program goes on behind what comes to an end, and a failure is passed on. -/
theorem bind_apply (x : Walk α) (next : α → Walk β) (w : Walker) :
    (x >>= next) w =
      match x w with
      | some (.ok a, w') => next a w'
      | some (.error failure, w') => some (.error failure, w')
      | none => none := by
  show (x w >>= _) = _
  cases x w with
  | none => rfl
  | some outcome =>
    rcases outcome with ⟨result, w'⟩
    cases result <;> rfl

theorem pure_apply (a : α) (w : Walker) : (pure a : Walk α) w = some (.ok a, w) := rfl

theorem get_apply (w : Walker) : (get : Walk Walker) w = some (.ok w, w) := rfl

theorem modify_apply (g : Walker → Walker) (w : Walker) :
    (modify g : Walk Unit) w = some (.ok (), g w) := rfl

end

/-! ## Steps of a walker at its place -/

section

variable {s : Session} {ts : List Token} {d : Nat}

/-- A session that moved to an end of its tokens sees the first of them. -/
theorem peek_moveTo (suffix : ts <:+ s.tokens) : (s.moveTo ts).peek = s.front ts := by
  rw [Session.peek, Session.rest_moveTo_of_suffix suffix]
  rfl

/-- A walker shows the first of the tokens to which it moved. -/
theorem peek_apply (suffix : ts <:+ s.tokens) :
    peek ⟨s.moveTo ts, d⟩ = some (.ok (s.front ts), ⟨s.moveTo ts, d⟩) := by
  rw [← peek_moveTo suffix]
  rfl

/-- A walker reports a failure where it is. -/
theorem fail_apply {α : Type} (suffix : ts <:+ s.tokens) (reason : Reason) :
    (fail reason : Walk α) ⟨s.moveTo ts, d⟩ =
      some (.error (s.failureAt ⟨reason, ts⟩), ⟨s.stoppedAt ⟨reason, ts⟩, d⟩) := by
  simp only [fail, bind_apply, peek_apply suffix, modify_apply]
  rfl

/-- A walker passes a token that is not the end. -/
theorem advance_apply {t : Token} (suffix : t :: ts <:+ s.tokens) (more : t.isEnd = false) :
    advance ⟨s.moveTo (t :: ts), d⟩ = some (.ok t, ⟨s.moveTo ts, d⟩) := by
  have bound := suffix.length_le
  rw [List.length_cons] at bound
  have position : s.tokens.length - (ts.length + 1) + 1 = s.tokens.length - ts.length := by omega
  simp only [advance, bind_apply, peek_apply suffix, Session.front_cons, more,
    Bool.false_eq_true, if_false, modify_apply, pure_apply]
  simp only [Session.moveTo, List.length_cons, position]

/-- A walker stays in front of the end. -/
theorem advance_of_atEnd (suffix : ts <:+ s.tokens) (ends : Grammar.atEnd ts = true) :
    advance ⟨s.moveTo ts, d⟩ = some (.ok (s.front ts), ⟨s.moveTo ts, d⟩) := by
  have isEnd : (s.front ts).isEnd = true := by
    rw [← peek_moveTo suffix, Session.isEnd_peek, Session.rest_moveTo_of_suffix suffix, ends]
  simp only [advance, bind_apply, peek_apply suffix, isEnd]
  rfl

/-- A walker that has a level left enters it. -/
theorem deepen_apply {b : Nat} (budget : d + (b + 1) = Grammar.maxDepth) (s : Session) :
    deepen ⟨s, d⟩ = some (.ok (), ⟨s, d + 1⟩) := by
  have left : ¬Grammar.maxDepth ≤ d := by omega
  simp only [deepen, bind_apply, get_apply, left, if_false, modify_apply]

/-- A walker that has no level left fails. -/
theorem deepen_of_eq (suffix : ts <:+ s.tokens) (budget : d + 0 = Grammar.maxDepth) :
    deepen ⟨s.moveTo ts, d⟩ =
      some (.error (s.failureAt ⟨.tooDeep, ts⟩), ⟨s.stoppedAt ⟨.tooDeep, ts⟩, d⟩) := by
  have hmax : Grammar.maxDepth ≤ d := Nat.le_of_eq budget.symm
  simp only [deepen, bind_apply, get_apply, hmax, if_true, fail_apply suffix]

/-- What a walker does about a mark is decided by what it sees. -/
theorem mark?_front (s : Session) (mark : Mark) (ts : List Token) :
    (s.front ts).mark? = some mark ↔ Grammar.startsWith mark ts = true := by
  cases ts with
  | nil => exact iff_of_false nofun nofun
  | cons t rest => simp [Session.front]

/-- A walker passes a mark that comes next. -/
theorem expect_apply {t : Token} {mark : Mark} (suffix : t :: ts <:+ s.tokens)
    (is : t.mark? = some mark) (reason : Reason) :
    expect mark reason ⟨s.moveTo (t :: ts), d⟩ = some (.ok (), ⟨s.moveTo ts, d⟩) := by
  have more := Grammar.isEnd_eq_false_of_mark? is
  simp only [expect, bind_apply, peek_apply suffix, Session.front_cons, is, if_true,
    advance_apply suffix more, pure_apply]

/-- A walker fails in front of something else than the mark that has to come next. -/
theorem expect_of_not_startsWith {mark : Mark} (suffix : ts <:+ s.tokens)
    (missing : Grammar.startsWith mark ts = false) (reason : Reason) :
    expect mark reason ⟨s.moveTo ts, d⟩ =
      some (.error (s.failureAt ⟨reason, ts⟩), ⟨s.stoppedAt ⟨reason, ts⟩, d⟩) := by
  have other : ¬(s.front ts).mark? = some mark := by simp [mark?_front, missing]
  simp only [expect, bind_apply, peek_apply suffix, other, if_false, fail_apply suffix]

end

/-! ## Entering a level -/

section

variable {s : Session} {t : Token} {ts : List Token} {d b : Nat} (room : Nat)

/-- Behind an operator a walker follows its operand, one level deeper. -/
theorem enter_unary (suffix : t :: ts <:+ s.tokens) (operator : t.isUnary = true)
    (budget : d + (b + 1) = Grammar.maxDepth) :
    production (room + 1) .unary ⟨s.moveTo (t :: ts), d⟩ =
      (do
        let right ← production room .unary
        modify fun w => { w with depth := d }
        return .unary t right : Walk Expr) ⟨s.moveTo ts, d + 1⟩ := by
  have more := Grammar.isEnd_eq_false_of_inExpression (Grammar.inExpression_of_isUnary operator)
  rw [production.eq_def (room + 1)]
  simp only [bind_apply, peek_apply suffix, Session.front_cons, operator, if_true, get_apply,
    deepen_apply budget, advance_apply suffix more]

/-- Behind a parenthesis a walker follows the inner expression, one level deeper. -/
theorem enter_grouping (suffix : t :: ts <:+ s.tokens) (opens : t.mark? = some .leftParen)
    (budget : d + (b + 1) = Grammar.maxDepth) :
    production (room + 1) .primary ⟨s.moveTo (t :: ts), d⟩ =
      (do
        let inner ← production room .expression
        expect .rightParen .expectedRightParen
        modify fun w => { w with depth := d }
        return .grouping inner : Walk Expr) ⟨s.moveTo ts, d + 1⟩ := by
  have noLiteral := Grammar.literal?_eq_none_of_mark? opens
  have more := Grammar.isEnd_eq_false_of_mark? opens
  rw [production.eq_def (room + 1)]
  simp only [bind_apply, peek_apply suffix, Session.front_cons, noLiteral, opens, if_true,
    get_apply, deepen_apply budget, advance_apply suffix more]

/-- Behind a question mark a walker follows the branches, one level deeper. -/
theorem enter_branches {c : Expr} {us : List Token} (suffix : t :: ts <:+ s.tokens)
    (condition : production room (.chain .equality) ⟨s.moveTo us, d⟩ =
      some (.ok c, ⟨s.moveTo (t :: ts), d⟩))
    (question : t.mark? = some .questionMark) (budget : d + (b + 1) = Grammar.maxDepth) :
    production (room + 1) .conditional ⟨s.moveTo us, d⟩ =
      (do
        let positive ← production room .expression
        expect .colon .expectedColon
        let negative ← production room .expression
        modify fun w => { w with depth := d }
        return .conditional c positive negative : Walk Expr) ⟨s.moveTo ts, d + 1⟩ := by
  have more := Grammar.isEnd_eq_false_of_mark? question
  rw [production.eq_def (room + 1)]
  simp only [bind_apply, condition, peek_apply suffix, Session.front_cons, question, if_true,
    get_apply, deepen_apply budget, advance_apply suffix more]

/-- Behind an operator of its level a walker goes on with a chain, one level deeper. -/
theorem enter_link {level : Chain} (suffix : t :: ts <:+ s.tokens)
    (operator : t.chain? = some level) (budget : d + (b + 1) = Grammar.maxDepth) (left : Expr) :
    continueChain (room + 1) level left ⟨s.moveTo (t :: ts), d⟩ =
      (do
        let right ← production room level.operand
        continueChain room level (level.join left t right) : Walk Expr) ⟨s.moveTo ts, d + 1⟩ := by
  have more := Grammar.isEnd_eq_false_of_inExpression (Grammar.inExpression_of_chain? operator)
  rw [continueChain.eq_def (room + 1)]
  simp only [bind_apply, peek_apply suffix, Session.front_cons, operator, if_true,
    deepen_apply budget, advance_apply suffix more]

/-- A level that is entered is taken from those that are left. -/
theorem budget_of_enter (budget : d + (b + 1) = Grammar.maxDepth) :
    d + 1 + b = Grammar.maxDepth := by
  omega

end

/-! ## What walkers read -/

/-- Carries out a task, with room for a number of nested calls. -/
def perform (room : Nat) : Grammar.Task → Walk Expr
  | .follow p => production room p
  | .extend level left => continueChain room level left

/-- How many calls can be nested in a task for which a number of levels are left. -/
def weight (b : Nat) : Grammar.Task → Nat
  | .follow p => 10 * b + p.rank + 1
  | .extend _ _ => 10 * b

section

variable {b room : Nat}

/-- Where there is room for a task, there is room for a call. -/
theorem exists_room {task : Grammar.Task} (fits : weight b task < room) :
    ∃ inner, room = inner + 1 :=
  Nat.exists_eq_add_one.2 (Nat.zero_lt_of_lt fits)

/-- In a production there is room for those of lower rank. -/
theorem fits_of_rank {p q : Production} (fits : weight b (.follow p) < room + 1)
    (lower : q.rank < p.rank) : weight b (.follow q) < room := by
  simp only [weight] at fits ⊢
  omega

/-- In a chain there is room for what follows its first operand. -/
theorem fits_extend {level : Chain} (fits : weight b (.follow (.chain level)) < room + 1)
    (left : Expr) : weight b (.extend level left) < room := by
  simp only [weight] at fits ⊢
  omega

/-- One level deeper there is room for every task. -/
theorem fits_of_enter {outer : Grammar.Task} (fits : weight (b + 1) outer < room + 1)
    (inner : Grammar.Task) : weight b inner < room := by
  have above : 10 * (b + 1) ≤ weight (b + 1) outer := by
    cases outer with
    | follow p => simp only [weight]; omega
    | extend level left => exact Nat.le_refl _
  have below : weight b inner < 10 * (b + 1) := by
    cases inner with
    | follow q =>
      have := q.rank_le
      simp only [weight]
      omega
    | extend level left => simp only [weight]; omega
  omega

/-- There is room for an expression with all levels left. -/
theorem fits_capacity : weight Grammar.maxDepth (.follow .expression) < capacity := by
  decide

end

/-- Whether a walker reads a tree at a level.  It gives its levels back at the end of a
production, but not in the middle of a chain. -/
def Arrives (s : Session) (room d : Nat) (ts rest : List Token) (e : Expr) :
    Grammar.Task → Prop
  | .follow p => production room p ⟨s.moveTo ts, d⟩ = some (.ok e, ⟨s.moveTo rest, d⟩)
  | .extend level left =>
    ∃ depth, continueChain room level left ⟨s.moveTo ts, d⟩ =
      some (.ok e, ⟨s.moveTo rest, depth⟩)

open Grammar (Reads Fails)

/-- A walker reads what a descent reads, with the levels that are left as its budget. -/
theorem perform_of_reads {s : Session} {b : Nat} {task : Grammar.Task} {ts rest : List Token}
    {e : Expr} (read : Reads b task ts e rest) (suffix : ts <:+ s.tokens) {d : Nat}
    (budget : d + b = Grammar.maxDepth) {room : Nat} (fits : weight b task < room) :
    Arrives s room d ts rest e task := by
  -- The level and the budget together are the limit, and no call is left without room.
  induction read generalizing d room with
      (rcases exists_room fits with ⟨room, rfl⟩; simp only [Arrives] at *)
  | expression _ ih =>
    rw [production.eq_def]
    exact ih suffix budget (fits_of_rank fits (by decide))
  | chain first _ ihOperand ihExtend =>
    rcases ihExtend (first.suffix.trans suffix) budget (fits_extend fits _) with ⟨depth, extended⟩
    have operand := ihOperand suffix budget (fits_of_rank fits (Chain.rank_operand_lt _))
    rw [production.eq_def]
    simp only [bind_apply, get_apply, operand, extended, modify_apply, pure_apply]
  | @condition _ _ _ rest first asked ih =>
    have other : ¬(s.front rest).mark? = some .questionMark := by simp [mark?_front, asked]
    have condition := ih suffix budget (fits_of_rank fits (by decide))
    rw [production.eq_def]
    simp only [bind_apply, condition, peek_apply (first.suffix.trans suffix), other, if_false,
      pure_apply]
  | conditional first question second colon _ ihCondition ihPositive ihNegative =>
    have atQuestion := first.suffix.trans suffix
    have behindQuestion := (List.suffix_cons _ _).trans atQuestion
    have atColon := second.suffix.trans behindQuestion
    have behindColon := (List.suffix_cons _ _).trans atColon
    have deeper := budget_of_enter budget
    have condition := ihCondition suffix budget (fits_of_rank fits (by decide))
    rw [enter_branches room atQuestion condition question budget]
    simp only [bind_apply, ihPositive behindQuestion deeper (fits_of_enter fits _),
      expect_apply atColon colon, ihNegative behindColon deeper (fits_of_enter fits _),
      modify_apply, pure_apply]
  | unary operator _ ih =>
    have behind := (List.suffix_cons _ _).trans suffix
    have operand := ih behind (budget_of_enter budget) (fits_of_enter fits _)
    rw [enter_unary room suffix operator budget]
    simp only [bind_apply, operand, modify_apply, pure_apply]
  | primary notOperator _ ih =>
    rw [production.eq_def]
    simp only [bind_apply, peek_apply suffix, Session.front_cons, notOperator, Bool.false_eq_true,
      if_false, ih suffix budget (fits_of_rank fits (by decide))]
  | literal value =>
    have more := Grammar.isEnd_eq_false_of_inExpression (Grammar.inExpression_of_literal? value)
    rw [production.eq_def]
    simp only [bind_apply, peek_apply suffix, Session.front_cons, value, advance_apply suffix more,
      pure_apply]
  | grouping opens first closes ih =>
    have behind := (List.suffix_cons _ _).trans suffix
    have atParen := first.suffix.trans behind
    have inner := ih behind (budget_of_enter budget) (fits_of_enter fits _)
    rw [enter_grouping room suffix opens budget]
    simp only [bind_apply, inner, expect_apply atParen closes, modify_apply, pure_apply]
  | @finish _ level _ ts noOperator =>
    have other : ¬(s.front ts).chain? = some level := by
      cases ts with
      | nil => exact nofun
      | cons t rest => exact noOperator t rfl
    refine ⟨d, ?_⟩
    rw [continueChain.eq_def]
    simp only [bind_apply, peek_apply suffix, other, if_false, pure_apply]
  | link operator first _ ihOperand ihExtend =>
    have behind := (List.suffix_cons _ _).trans suffix
    have deeper := budget_of_enter budget
    have operand := ihOperand behind deeper (fits_of_enter fits _)
    rcases ihExtend (first.suffix.trans behind) deeper (fits_of_enter fits _) with
      ⟨depth, extended⟩
    refine ⟨depth, ?_⟩
    rw [enter_link room suffix operator budget]
    simp only [bind_apply, operand, extended]

/-- A walker follows a production as a descent does. -/
theorem production_of_reads {s : Session} {b : Nat} {p : Production} {ts rest : List Token}
    {e : Expr} (read : Reads b (.follow p) ts e rest) (suffix : ts <:+ s.tokens) {d : Nat}
    (budget : d + b = Grammar.maxDepth) {room : Nat} (fits : weight b (.follow p) < room) :
    production room p ⟨s.moveTo ts, d⟩ = some (.ok e, ⟨s.moveTo rest, d⟩) :=
  perform_of_reads read suffix budget fits

/-- A walker gets stuck where a descent does, and reports the failure there. -/
theorem perform_of_fails {s : Session} {b : Nat} {task : Grammar.Task} {ts : List Token}
    {stuck : Grammar.Stuck} (failed : Fails b task ts stuck) (suffix : ts <:+ s.tokens) {d : Nat}
    (budget : d + b = Grammar.maxDepth) {room : Nat} (fits : weight b task < room) :
    ∃ depth, perform room task ⟨s.moveTo ts, d⟩ =
      some (.error (s.failureAt stuck), ⟨s.stoppedAt stuck, depth⟩) := by
  -- Where the failure is found the count of levels stays, so nothing is said about it.
  induction failed generalizing d room with
      (rcases exists_room fits with ⟨room, rfl⟩; simp only [perform] at *)
  | expression _ ih =>
    rw [production.eq_def]
    exact ih suffix budget (fits_of_rank fits (by decide))
  | operand _ ih =>
    rcases ih suffix budget (fits_of_rank fits (Chain.rank_operand_lt _)) with ⟨depth, inner⟩
    refine ⟨depth, ?_⟩
    rw [production.eq_def]
    simp only [bind_apply, get_apply, inner]
  | chain first _ ih =>
    have operand :=
      production_of_reads first suffix budget (fits_of_rank fits (Chain.rank_operand_lt _))
    rcases ih (first.suffix.trans suffix) budget (fits_extend fits _) with ⟨depth, inner⟩
    refine ⟨depth, ?_⟩
    rw [production.eq_def]
    simp only [bind_apply, get_apply, operand, inner]
  | condition _ ih =>
    rcases ih suffix budget (fits_of_rank fits (by decide)) with ⟨depth, inner⟩
    refine ⟨depth, ?_⟩
    rw [production.eq_def]
    simp only [bind_apply, inner]
  | question first question =>
    have atQuestion := first.suffix.trans suffix
    have condition := production_of_reads first suffix budget (fits_of_rank fits (by decide))
    refine ⟨d, ?_⟩
    rw [production.eq_def]
    simp only [bind_apply, condition, peek_apply atQuestion, Session.front_cons, question, if_true,
      get_apply, deepen_of_eq atQuestion budget]
  | positive first question _ ih =>
    have atQuestion := first.suffix.trans suffix
    have behindQuestion := (List.suffix_cons _ _).trans atQuestion
    have condition := production_of_reads first suffix budget (fits_of_rank fits (by decide))
    rcases ih behindQuestion (budget_of_enter budget) (fits_of_enter fits _) with ⟨depth, inner⟩
    refine ⟨depth, ?_⟩
    rw [enter_branches room atQuestion condition question budget]
    simp only [bind_apply, inner]
  | colon first question second missing =>
    have atQuestion := first.suffix.trans suffix
    have behindQuestion := (List.suffix_cons _ _).trans atQuestion
    have atColon := second.suffix.trans behindQuestion
    have condition := production_of_reads first suffix budget (fits_of_rank fits (by decide))
    have positive :=
      production_of_reads second behindQuestion (budget_of_enter budget) (fits_of_enter fits _)
    refine ⟨d + 1, ?_⟩
    rw [enter_branches room atQuestion condition question budget]
    simp only [bind_apply, positive, expect_of_not_startsWith atColon missing]
  | negative first question second colon _ ih =>
    have atQuestion := first.suffix.trans suffix
    have behindQuestion := (List.suffix_cons _ _).trans atQuestion
    have atColon := second.suffix.trans behindQuestion
    have behindColon := (List.suffix_cons _ _).trans atColon
    have condition := production_of_reads first suffix budget (fits_of_rank fits (by decide))
    have positive :=
      production_of_reads second behindQuestion (budget_of_enter budget) (fits_of_enter fits _)
    rcases ih behindColon (budget_of_enter budget) (fits_of_enter fits _) with ⟨depth, inner⟩
    refine ⟨depth, ?_⟩
    rw [enter_branches room atQuestion condition question budget]
    simp only [bind_apply, positive, expect_apply atColon colon, inner]
  | operator operator =>
    refine ⟨d, ?_⟩
    rw [production.eq_def]
    simp only [bind_apply, peek_apply suffix, Session.front_cons, operator, if_true, get_apply,
      deepen_of_eq suffix budget]
  | unary operator _ ih =>
    have behind := (List.suffix_cons _ _).trans suffix
    rcases ih behind (budget_of_enter budget) (fits_of_enter fits _) with ⟨depth, inner⟩
    refine ⟨depth, ?_⟩
    rw [enter_unary room suffix operator budget]
    simp only [bind_apply, inner]
  | @primary _ ts _ notOperator _ ih =>
    have other : (s.front ts).isUnary = false := by
      cases ts with
      | nil => rfl
      | cons t rest => exact notOperator t rfl
    rcases ih suffix budget (fits_of_rank fits (by decide)) with ⟨depth, inner⟩
    refine ⟨depth, ?_⟩
    rw [production.eq_def]
    simp only [bind_apply, peek_apply suffix, other, Bool.false_eq_true, if_false, inner]
  | @nothing _ ts hneither =>
    have neither : (s.front ts).literal? = none ∧ (s.front ts).mark? ≠ some .leftParen := by
      cases ts with
      | nil => exact ⟨rfl, nofun⟩
      | cons t rest => exact hneither t rfl
    refine ⟨d, ?_⟩
    rw [production.eq_def]
    simp only [bind_apply, peek_apply suffix, neither.1, neither.2, if_false, fail_apply suffix]
  | leftParen opens =>
    have noLiteral := Grammar.literal?_eq_none_of_mark? opens
    refine ⟨d, ?_⟩
    rw [production.eq_def]
    simp only [bind_apply, peek_apply suffix, Session.front_cons, noLiteral, opens, if_true,
      get_apply, deepen_of_eq suffix budget]
  | inner opens _ ih =>
    have behind := (List.suffix_cons _ _).trans suffix
    rcases ih behind (budget_of_enter budget) (fits_of_enter fits _) with ⟨depth, inner⟩
    refine ⟨depth, ?_⟩
    rw [enter_grouping room suffix opens budget]
    simp only [bind_apply, inner]
  | rightParen opens first missing =>
    have behind := (List.suffix_cons _ _).trans suffix
    have atParen := first.suffix.trans behind
    have inner :=
      production_of_reads first behind (budget_of_enter budget) (fits_of_enter fits _)
    refine ⟨d + 1, ?_⟩
    rw [enter_grouping room suffix opens budget]
    simp only [bind_apply, inner, expect_of_not_startsWith atParen missing]
  | further operator =>
    refine ⟨d, ?_⟩
    rw [continueChain.eq_def]
    simp only [bind_apply, peek_apply suffix, Session.front_cons, operator, if_true,
      deepen_of_eq suffix budget]
  | right operator _ ih =>
    have behind := (List.suffix_cons _ _).trans suffix
    rcases ih behind (budget_of_enter budget) (fits_of_enter fits _) with ⟨depth, inner⟩
    refine ⟨depth, ?_⟩
    rw [enter_link room suffix operator budget]
    simp only [bind_apply, inner]
  | link operator first _ ih =>
    have behind := (List.suffix_cons _ _).trans suffix
    have deeper := budget_of_enter budget
    have operand := production_of_reads first behind deeper (fits_of_enter fits _)
    rcases ih (first.suffix.trans behind) deeper (fits_of_enter fits _) with ⟨depth, inner⟩
    refine ⟨depth, ?_⟩
    rw [enter_link room suffix operator budget]
    simp only [bind_apply, operand, inner]

/-! ## Answers of walkers -/

variable {s : Session}

/-- A walker parses as a session does, whatever it has counted before. -/
theorem parse_apply (inside : s.Inside) (d : Nat) :
    ∃ depth, parse ⟨s, d⟩ = some (s.parse.1, ⟨s.parse.2, depth⟩) := by
  have suffix : s.rest <:+ s.tokens := List.drop_suffix _ _
  have budget : 0 + Grammar.maxDepth = Grammar.maxDepth := Nat.zero_add _
  have here : (⟨s, 0⟩ : Walker) = ⟨s.moveTo s.rest, 0⟩ := by rw [Session.moveTo_rest inside]
  rw [s.parse_eq_conclude]
  simp only [parse, bind_apply, modify_apply, here]
  cases result : Grammar.complete Grammar.maxDepth s.rest with
  | ok reading =>
    rcases reading with ⟨e, rest⟩
    rcases Grammar.complete_eq_ok.1 result with ⟨read, ends⟩
    have behind := read.suffix.trans suffix
    have isEnd : (s.front rest).isEnd = true := by
      rw [← peek_moveTo behind, Session.isEnd_peek, Session.rest_moveTo_of_suffix behind, ends]
    refine ⟨0, ?_⟩
    simp only [production_of_reads read suffix budget fits_capacity, peek_apply behind, isEnd,
      if_true, pure_apply]
    rfl
  | error stuck =>
    rcases Grammar.complete_eq_error.1 result with failed | ⟨e, rest, read, more, rfl⟩
    · rcases perform_of_fails failed suffix budget fits_capacity with ⟨depth, stopped⟩
      rw [perform] at stopped
      refine ⟨depth, ?_⟩
      simp only [stopped]
      rfl
    · have behind := read.suffix.trans suffix
      have notEnd : (s.front rest).isEnd = false := by
        rw [← peek_moveTo behind, Session.isEnd_peek, Session.rest_moveTo_of_suffix behind, more]
      refine ⟨0, ?_⟩
      simp only [production_of_reads read suffix budget fits_capacity, peek_apply behind, notEnd,
        Bool.false_eq_true, if_false, fail_apply behind]
      rfl

/-- A walker remembers the token in front of its place. -/
theorem previous?_apply {before ts : List Token} {previous : Token} {d : Nat}
    (whole : s.tokens = before ++ previous :: ts) :
    previous? ⟨s.moveTo ts, d⟩ = some (.ok (some previous), ⟨s.moveTo ts, d⟩) := by
  have place : s.tokens.length - ts.length = before.length + 1 := by
    rw [whole, List.length_append, List.length_cons]
    omega
  have found : s.tokens[before.length]? = some previous := by
    rw [whole, List.getElem?_append_right (Nat.le_refl _), Nat.sub_self, List.getElem?_cons_zero]
  simp only [previous?, bind_apply, get_apply, pure_apply, Session.moveTo, place,
    Nat.add_one_ne_zero, if_false, Nat.add_sub_cancel, found]

/-- At the end a walker skips nothing. -/
theorem skip_of_atEnd {ts : List Token} {d : Nat} (suffix : ts <:+ s.tokens)
    (ends : Grammar.atEnd ts = true) (most : Nat) :
    skip most ⟨s.moveTo ts, d⟩ = some (.ok [], ⟨s.moveTo ts, d⟩) := by
  cases most with
  | zero => rfl
  | succ most =>
    have isEnd : (s.front ts).isEnd = true := by
      rw [← peek_moveTo suffix, Session.isEnd_peek, Session.rest_moveTo_of_suffix suffix, ends]
    simp only [skip, bind_apply, peek_apply suffix, previous?, get_apply, pure_apply, isEnd,
      Bool.true_or, if_true]

/-- A walker skips the tokens that recovery skips. -/
theorem skip_apply {before ts : List Token} {previous : Token} {d : Nat}
    (whole : s.tokens = before ++ previous :: ts) :
    skip ts.length ⟨s.moveTo ts, d⟩ =
      some (.ok (ts.take (ts.length - (Grammar.skipStatement previous ts).length)),
        ⟨s.moveTo (Grammar.skipStatement previous ts), d⟩) := by
  induction ts generalizing before previous with
  | nil => rfl
  | cons t rest ih =>
    have suffix : t :: rest <:+ s.tokens := by
      rw [whole]
      exact (List.suffix_cons _ _).trans (List.suffix_append _ _)
    have parted : s.tokens = before ++ [previous] ++ t :: rest := by simp [whole]
    have later := ih parted
    rw [List.length_cons, skip, Grammar.skipStatement]
    simp only [bind_apply, peek_apply suffix, Session.front_cons, previous?_apply whole,
      Option.any_some]
    by_cases stops : (t.isEnd || previous.mark? == some .semicolon || t.startsStatement) = true
    · simp only [stops, if_true, pure_apply, List.length_cons, Nat.sub_self, List.take_zero]
    · have more : t.isEnd = false := by
        cases ends : t.isEnd with
        | false => rfl
        | true => simp [ends] at stops
      have fewer := (Grammar.skipStatement_suffix t rest).length_le
      simp only [stops, Bool.false_eq_true, if_false, bind_apply, advance_apply suffix more, later,
        pure_apply, Nat.succ_sub fewer, List.take_succ_cons]

/-- A walker recovers as a session does. -/
theorem synchronize_apply (inside : s.Inside) (d : Nat) :
    synchronize ⟨s, d⟩ = some (.ok (Grammar.skipped s.rest), ⟨s.synchronize, d⟩) := by
  have suffix : s.rest <:+ s.tokens := List.drop_suffix _ _
  have here : (⟨s, d⟩ : Walker) = ⟨s.moveTo s.rest, d⟩ := by rw [Session.moveTo_rest inside]
  simp only [synchronize, bind_apply, here, Session.synchronize]
  cases ends : Grammar.atEnd s.rest with
  | true =>
    have hskipped : Grammar.skipped s.rest = [] := by
      rw [Grammar.skipped, Grammar.recover_of_atEnd ends, List.length_tail,
        Nat.sub_eq_zero_of_le (Nat.sub_le _ _), List.take_zero]
    simp only [advance_of_atEnd suffix ends, get_apply, skip_of_atEnd suffix ends,
      Grammar.recover_of_atEnd ends, hskipped]
  | false =>
    cases remains : s.rest with
    | nil =>
      rw [remains] at ends
      contradiction
    | cons t rest =>
      rw [remains] at ends suffix
      have more : t.isEnd = false := ends
      have behind := (List.suffix_cons t rest).trans suffix
      rcases suffix with ⟨before, whole⟩
      simp only [advance_apply (whole ▸ List.suffix_append _ _) more, get_apply,
        Session.rest_moveTo_of_suffix behind, skip_apply whole.symm, Grammar.skipped,
        Grammar.recover, more, Bool.false_eq_true, if_false, List.tail_cons]

/-- What a program came to is observed, and no failure is passed on. -/
theorem observing_apply {α : Type} {x : Walk α} {w w' : Walker} {result : Except ParseError α}
    (outcome : x w = some (result, w')) :
    (observing x : Walk (Except ParseError α)) w = some (.ok result, w') := by
  show ((do let a ← x; pure (Except.ok a) : Walk (Except ParseError α)) w).bind _ = _
  rw [bind_apply, outcome]
  cases result <;> rfl

/-- A walker gives the answer of a session, whatever it has counted before. -/
theorem answer_apply (inside : s.Inside) (call : Session.Call) (d : Nat) :
    ∃ depth, answer call ⟨s, d⟩ =
      some (.ok (s.answer call).1, ⟨(s.answer call).2, depth⟩) := by
  cases call with
  | parse =>
    rcases parse_apply inside d with ⟨depth, parsed⟩
    refine ⟨depth, ?_⟩
    simp only [answer, bind_apply, observing_apply parsed, pure_apply]
    rfl
  | synchronize =>
    refine ⟨d, ?_⟩
    simp only [answer, bind_apply, synchronize_apply inside, pure_apply]
    rfl
  | peek => exact ⟨d, rfl⟩

/-- A walker gives the answers of a session one after the other, and comes to the state of
that session. -/
theorem run_apply (inside : s.Inside) (calls : List Session.Call) (d : Nat) :
    ∃ depth, run calls ⟨s, d⟩ = some (.ok (s.run calls).1, ⟨(s.run calls).2, depth⟩) := by
  induction calls generalizing s d with
  | nil => exact ⟨d, rfl⟩
  | cons call calls ih =>
    rcases answer_apply inside call d with ⟨between, first⟩
    rcases ih (Session.inside_answer inside call) between with ⟨depth, later⟩
    rw [run] at later
    refine ⟨depth, ?_⟩
    simp only [run, List.mapM_cons, bind_apply, first, later, pure_apply]
    rfl

end Walk

end LoxExpr
