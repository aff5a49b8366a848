import LoxExpr.Proofs.Grammar.Conduct
import Mathlib.Order.Bounds.Defs

/-!
# Nested calls of a walker

A parse calls productions, which call further ones.  The outermost call is on the first level
and a nested one on the level behind that of its caller.  Here walkers have a budget for the
levels of their calls and nothing else: the turns of a chain are taken one after the other, so
they spend none of it.  A parse whose calls stay on the first levels is not affected, and one
that goes on to a level for which there is no budget has no outcome.

Between two units of depth there are at most nine levels of calls, one for each production from
the loosest to the tightest.  A construct that restarts at the loosest production enters a
level of depth first and gives it back only behind itself, so the count of depth bounds the
levels of calls.

Main results:

- Theorem `Walk.leads_production`: a production that succeeds gives its levels of depth back.
- Theorem `Walk.Budgeted.alike_production`: with nine calls for each level of depth that is
  left, and one for each production below it, a production does not run out of calls.
- Theorem `Walk.Budgeted.production_openings`: nested groupings need all of these calls.
- Theorem `Walk.Budgeted.isLeast_suffices`: the least budget with which every parse has its
  outcome.
-/

namespace LoxExpr.Walk

/-! ## Programs that keep track of the depth -/

section

variable {α β : Type}

/-- Whether a program that begins at a depth is at another depth when it succeeds. -/
def Leads (d d' : Nat) (x : Walk α) : Prop :=
  ∀ s a w, x ⟨s, d⟩ = some (.ok a, w) → w.depth = d'

/-- Whether a program is at a depth when it succeeds, wherever it begins. -/
def Restores (d : Nat) (x : Walk α) : Prop :=
  ∀ w a w', x w = some (.ok a, w') → w'.depth = d

/-- Whether two programs that begin at a depth have the same outcomes. -/
def Alike (d : Nat) (x y : Walk α) : Prop :=
  ∀ s, x ⟨s, d⟩ = y ⟨s, d⟩

/-- A program that goes on has succeeded before. -/
theorem exists_of_bind {x : Walk α} {f : α → Walk β} {w w' : Walker} {b : β}
    (outcome : (x >>= f) w = some (.ok b, w')) :
    ∃ a between, x w = some (.ok a, between) ∧ f a between = some (.ok b, w') := by
  rw [bind_apply] at outcome
  split at outcome
  next a between first => exact ⟨a, between, first, outcome⟩
  next => cases outcome
  next => cases outcome

namespace Leads

variable {d d' d'' : Nat}

/-- Depths add up when programs follow each other. -/
theorem bind {x : Walk α} {f : α → Walk β} (first : Leads d d' x)
    (later : ∀ a, Leads d' d'' (f a)) : Leads d d'' (x >>= f) := by
  intro s b w outcome
  rcases exists_of_bind outcome with ⟨a, ⟨t, depth⟩, passed, rest⟩
  obtain rfl : depth = d' := first s a _ passed
  exact later a t b w rest

/-- A program can go on with the depth at which it is. -/
theorem get_bind {f : Walker → Walk β} (later : ∀ w, w.depth = d → Leads d d' (f w)) :
    Leads d d' (get >>= f) := by
  intro s b w outcome
  rw [bind_apply, get_apply] at outcome
  exact later ⟨s, d⟩ rfl s b w outcome

/-- A result is returned where the program is. -/
theorem pure (a : α) : Leads d d (Pure.pure a : Walk α) := by
  rintro s _ _ ⟨⟩
  rfl

/-- A failure does not succeed. -/
theorem fail (reason : Reason) : Leads d d' (Walk.fail reason : Walk α) := by
  rintro s _ _ ⟨⟩

end Leads

/-- What restores a depth at its end restores it. -/
theorem restores_bind {d : Nat} {x : Walk α} {f : α → Walk β} (later : ∀ a, Restores d (f a)) :
    Restores d (x >>= f) := by
  intro w b w' outcome
  rcases exists_of_bind outcome with ⟨a, between, _, rest⟩
  exact later a between b w' rest

/-- A depth is restored by setting it. -/
theorem restores_set (d : Nat) (a : α) :
    Restores d (do modify fun w => { w with depth := d }; return a : Walk α) := by
  rintro w _ _ ⟨⟩
  rfl

/-- What restores a depth leads to it. -/
theorem Restores.leads {d d' : Nat} {x : Walk α} (restores : Restores d' x) : Leads d d' x :=
  fun s => restores ⟨s, d⟩

namespace Alike

variable {d d' : Nat}

theorem refl (x : Walk α) : Alike d x x :=
  fun _ => rfl

/-- Programs are alike if they begin alike and then go on alike from where they are. -/
theorem bind {x y : Walk α} {f g : α → Walk β} (first : Alike d x y) (leads : Leads d d' y)
    (later : ∀ a, Alike d' (f a) (g a)) : Alike d (x >>= f) (y >>= g) := by
  intro s
  rw [bind_apply, bind_apply, first s]
  split
  next a w passed =>
    obtain rfl : w.depth = d' := leads s a w passed
    exact later a w.session
  next => rfl
  next => rfl

/-- Programs that begin alike and go on in the same way are alike. -/
theorem bind_same {x y : Walk α} (first : Alike d x y) (f : α → Walk β) :
    Alike d (x >>= f) (y >>= f) := by
  intro s
  rw [bind_apply, bind_apply, first s]

/-- Programs that ask for the depth are alike if they go on alike. -/
theorem get_bind {f g : Walker → Walk β} (later : ∀ w, Alike d (f w) (g w)) :
    Alike d (get >>= f) (get >>= g) := by
  intro s
  rw [bind_apply, bind_apply, get_apply]
  exact later ⟨s, d⟩ s

end Alike

end

/-! ## Steps -/

section

variable {d : Nat}

/-- Looking at the next token does not change the depth. -/
theorem leads_peek : Leads d d peek := by
  rintro s _ _ ⟨⟩
  rfl

/-- Passing a token does not change the depth. -/
theorem leads_advance : Leads d d advance := by
  refine leads_peek.bind fun t => ?_
  split
  next => exact .pure t
  next =>
    rintro s _ _ ⟨⟩
    rfl

/-- Passing a mark does not change the depth. -/
theorem leads_expect (mark : Mark) (reason : Reason) : Leads d d (expect mark reason) := by
  refine leads_peek.bind fun t => ?_
  split
  next => exact leads_advance.bind fun _ => .pure ()
  next => exact .fail reason

/-- Entering a level of depth leads one level further, and is possible in front of the limit
only. -/
theorem deepen_cases (s : Session) :
    (d < Grammar.maxDepth ∧ deepen ⟨s, d⟩ = some (.ok (), ⟨s, d + 1⟩)) ∨
      ∃ failure w, deepen ⟨s, d⟩ = some (.error failure, w) := by
  by_cases full : Grammar.maxDepth ≤ d
  · refine .inr ⟨⟨.tooDeep, s.peek⟩, ?_⟩
    simp only [deepen, bind_apply, get_apply, full, if_true]
    exact ⟨_, rfl⟩
  · refine .inl ⟨Nat.lt_of_not_le full, ?_⟩
    simp only [deepen, bind_apply, get_apply, full, if_false]
    rfl

/-- Programs that enter a level of depth are alike if they go on alike on that level. -/
theorem alike_deepen {α : Type} {f g : Unit → Walk α}
    (later : d < Grammar.maxDepth → Alike (d + 1) (f ()) (g ())) :
    Alike d (deepen >>= f) (deepen >>= g) := by
  intro s
  rcases deepen_cases s with ⟨room, entered⟩ | ⟨failure, w, failed⟩
  · rw [bind_apply, bind_apply, entered]
    exact later room s
  · rw [bind_apply, bind_apply, failed]

end

/-! ## Productions give their levels back -/

/-- A production that succeeds gives its levels of depth back. -/
theorem leads_production (room : Nat) (p : Production) (d : Nat) :
    Leads d d (production room p) := by
  induction room generalizing p d with
  | zero =>
    rintro s _ _ ⟨⟩
  | succ room ih =>
    rw [production.eq_def]
    cases p with
    | expression => exact ih _ d
    | chain level =>
      refine .get_bind fun w here => ?_
      subst here
      exact (restores_bind fun left => restores_bind fun e => restores_set _ e).leads
    | conditional =>
      refine (ih _ d).bind fun condition => leads_peek.bind fun t => ?_
      split
      next =>
        refine .get_bind fun w here => ?_
        subst here
        exact (restores_bind fun _ => restores_bind fun _ => restores_bind fun positive =>
          restores_bind fun _ => restores_bind fun negative => restores_set _ _).leads
      next => exact .pure condition
    | unary =>
      refine leads_peek.bind fun t => ?_
      split
      next =>
        refine .get_bind fun w here => ?_
        subst here
        exact (restores_bind fun _ => restores_bind fun operator =>
          restores_bind fun right => restores_set _ _).leads
      next => exact ih _ d
    | primary =>
      refine leads_peek.bind fun t => ?_
      split
      next value _ => exact leads_advance.bind fun _ => .pure _
      next =>
        split
        next =>
          refine .get_bind fun w here => ?_
          subst here
          exact (restores_bind fun _ => restores_bind fun _ => restores_bind fun inner =>
            restores_bind fun _ => restores_set _ _).leads
        next => exact .fail _

/-! ## Programs with a budget for their calls -/

namespace Budgeted

/-- Continues a chain behind what it has so far, with a program that calls the production of its
operands, for at most a number of turns. -/
def continueChain (operand : Walk Expr) (level : Chain) : Nat → Expr → Walk Expr
  | 0, _ => overflow
  | turns + 1, left => do
    if (← peek).chain? = some level then
      deepen
      let operator ← advance
      let right ← operand
      continueChain operand level turns (level.join left operator right)
    else return left

/-- The number of turns that a chain can take.  All but the last one enter a level of depth. -/
def turns : Nat :=
  Grammar.maxDepth + 1

/-- Calls a production, with a budget for the levels of this call and of those inside of it. -/
def production : Nat → Production → Walk Expr
  | 0, _ => overflow
  | calls + 1, p =>
    match p with
    | .expression => production calls (.chain .sequence)
    | .chain level => do
      let depth := (← get).depth
      let left ← production calls level.operand
      let e ← continueChain (production calls level.operand) level turns left
      modify fun w => { w with depth := depth }
      return e
    | .conditional => do
      let condition ← production calls (.chain .equality)
      if (← peek).mark? = some .questionMark then
        let depth := (← get).depth
        deepen
        let _ ← advance
        let positive ← production calls .expression
        expect .colon .expectedColon
        let negative ← production calls .expression
        modify fun w => { w with depth := depth }
        return .conditional condition positive negative
      else return condition
    | .unary => do
      if (← peek).isUnary then
        let depth := (← get).depth
        deepen
        let operator ← advance
        let right ← production calls .unary
        modify fun w => { w with depth := depth }
        return .unary operator right
      else production calls .primary
    | .primary => do
      let t ← peek
      match t.literal? with
      | some value =>
        let _ ← advance
        return .literal value
      | none =>
        if t.mark? = some .leftParen then
          let depth := (← get).depth
          deepen
          let _ ← advance
          let inner ← production calls .expression
          expect .rightParen .expectedRightParen
          modify fun w => { w with depth := depth }
          return .grouping inner
        else fail .expectedExpression

/-- Parses one expression that has to reach up to the end. -/
def parse (calls : Nat) : Walk Expr := do
  modify fun w => { w with depth := 0 }
  let e ← production calls .expression
  if (← peek).isEnd then return e else fail .expectedEnd

/-! ## There are enough calls -/

/-- The levels of calls that a production may need at a depth: nine for each level of depth that
is left, and one for itself and each production below it. -/
def levels (d : Nat) (p : Production) : Nat :=
  9 * (Grammar.maxDepth - d) + p.rank + 1

section

variable {d calls room : Nat}

/-- There are enough calls for productions of lower rank. -/
theorem levels_of_rank {p q : Production} (enough : levels d p ≤ calls + 1)
    (lower : q.rank < p.rank) : levels d q ≤ calls := by
  unfold levels at enough ⊢
  omega

/-- There are enough calls for every production at a greater depth. -/
theorem levels_of_deeper {p : Production} {d' : Nat} (enough : levels d p ≤ calls + 1)
    (deeper : d < d') (below : d < Grammar.maxDepth) (q : Production) : levels d' q ≤ calls := by
  have := q.rank_le
  unfold levels at enough ⊢
  omega

/-- There is room for every task one level of depth further. -/
theorem fits_of_deeper {outer : Grammar.Task} (below : d < Grammar.maxDepth)
    (fits : weight (Grammar.maxDepth - d) outer < room + 1) (inner : Grammar.Task) :
    weight (Grammar.maxDepth - (d + 1)) inner < room := by
  have left : Grammar.maxDepth - d = Grammar.maxDepth - (d + 1) + 1 := by omega
  rw [left] at fits
  exact fits_of_enter fits inner

/-- A chain goes on as it does without a budget, if its operands are what they are without. -/
theorem alike_continueChain {operand : Walk Expr} {level : Chain} {turns : Nat}
    (same : ∀ d' room, d < d' → d' ≤ Grammar.maxDepth →
      weight (Grammar.maxDepth - d') (.follow level.operand) < room →
      Alike d' operand (Walk.production room level.operand))
    (enough : Grammar.maxDepth - d < turns) {left : Expr}
    (fits : weight (Grammar.maxDepth - d) (.extend level left) < room) :
    Alike d (continueChain operand level turns left) (Walk.continueChain room level left) := by
  induction turns generalizing d room left with
  | zero => omega
  | succ turns ih =>
    rcases exists_room fits with ⟨room, rfl⟩
    rw [continueChain, Walk.continueChain.eq_def]
    refine (Alike.refl peek).bind leads_peek fun t => ?_
    split
    next =>
      refine alike_deepen fun below => (Alike.refl advance).bind leads_advance fun operator => ?_
      have right := same (d + 1) room (Nat.lt_succ_self d) below (fits_of_deeper below fits _)
      refine right.bind (leads_production room _ _) fun right => ?_
      apply ih (fun d' room further => same d' room (Nat.lt_of_succ_lt further)) (by omega)
      exact fits_of_deeper below fits _
    next => exact .refl _

/-- With enough calls a production is what it is without a budget for them. -/
theorem alike_production {p : Production} (enough : levels d p ≤ calls)
    (fits : weight (Grammar.maxDepth - d) (.follow p) < room) :
    Alike d (production calls p) (Walk.production room p) := by
  induction calls generalizing d room p with
  | zero => contradiction
  | succ calls ih =>
    rcases exists_room fits with ⟨room, rfl⟩
    have lower {q : Production} (rank : q.rank < p.rank) :
        Alike d (production calls q) (Walk.production room q) :=
      ih (levels_of_rank enough rank) (fits_of_rank fits rank)
    have deeper (q : Production) (below : d < Grammar.maxDepth) :
        Alike (d + 1) (production calls q) (Walk.production room q) :=
      ih (levels_of_deeper enough (Nat.lt_succ_self d) below q) (fits_of_deeper below fits _)
    rw [Walk.production.eq_def]
    cases p with
    | expression => exact lower (by decide)
    | chain level =>
      refine .get_bind fun w => ?_
      have operand := lower (Chain.rank_operand_lt level)
      refine operand.bind (leads_production room _ d) fun left => Alike.bind_same ?_ _
      apply alike_continueChain _ (by unfold turns; omega) (fits_extend fits left)
      intro d' room further atMost fits
      exact ih (levels_of_deeper enough further (Nat.lt_of_lt_of_le further atMost) _) fits
    | conditional =>
      refine (lower (by decide)).bind (leads_production room _ d) fun condition => ?_
      refine (Alike.refl peek).bind leads_peek fun t => ?_
      split
      next =>
        refine .get_bind fun w => alike_deepen fun below => ?_
        refine (Alike.refl advance).bind leads_advance fun _ => ?_
        refine (deeper _ below).bind (leads_production room _ _) fun positive => ?_
        refine (Alike.refl _).bind (leads_expect _ _) fun _ => ?_
        exact (deeper _ below).bind_same _
      next => exact .refl _
    | unary =>
      refine (Alike.refl peek).bind leads_peek fun t => ?_
      split
      next =>
        refine .get_bind fun w => alike_deepen fun below => ?_
        refine (Alike.refl advance).bind leads_advance fun operator => ?_
        exact (deeper _ below).bind_same _
      next => exact lower (by decide)
    | primary =>
      refine (Alike.refl peek).bind leads_peek fun t => ?_
      cases t.literal? with
      | some value => exact .refl _
      | none =>
        simp only
        split
        next =>
          refine .get_bind fun w => alike_deepen fun below => ?_
          refine (Alike.refl advance).bind leads_advance fun _ => ?_
          exact (deeper _ below).bind_same _
        next => exact .refl _

end

/-- A parse with enough calls is one without a budget for them. -/
theorem parse_eq {calls : Nat} (enough : levels 0 .expression ≤ calls) (w : Walker) :
    parse calls w = Walk.parse w := by
  have same : Alike 0 (production calls .expression) (Walk.production capacity .expression) :=
    alike_production enough fits_capacity
  exact same.bind_same _ w.session

/-! ## No fewer calls are enough -/

/-- A parenthesis to open a grouping with. -/
def leftParenToken : Token :=
  ⟨.mark .leftParen, "(", 1⟩

/-- A literal behind a number of parentheses, with other tokens behind it. -/
def openings : Nat → List Token → List Token
  | 0, rest => Grammar.nilToken :: rest
  | n + 1, rest => leftParenToken :: openings n rest

/-- What begins with parentheses or a literal begins with no operator. -/
theorem isUnary_front_openings (s : Session) (n : Nat) (rest : List Token) :
    (s.front (openings n rest)).isUnary = false := by
  cases n <;> rfl

/-- Behind parentheses a production runs out of calls if there are fewer than nine for each of
them. -/
theorem production_openings {s : Session} {calls n d : Nat} {p : Production} {rest : List Token}
    (suffix : openings n rest <:+ s.tokens) (below : d + n ≤ Grammar.maxDepth)
    (few : calls < 9 * n + p.rank + 1) :
    production calls p ⟨s.moveTo (openings n rest), d⟩ = none := by
  induction calls generalizing n d p with
  | zero => rfl
  | succ calls ih =>
    have lower {q : Production} (rank : q.rank + 1 = p.rank) :
        production calls q ⟨s.moveTo (openings n rest), d⟩ = none :=
      ih suffix below (by omega)
    rw [production.eq_def]
    cases p with
    | expression => exact lower rfl
    | chain level =>
      have operand := lower (q := level.operand) (by cases level <;> rfl)
      simp only [bind_apply, get_apply, operand]
    | conditional => simp only [bind_apply, lower (q := .chain .equality) rfl]
    | unary =>
      simp only [bind_apply, peek_apply suffix, isUnary_front_openings, Bool.false_eq_true,
        if_false]
      exact lower rfl
    | primary =>
      cases n with
      | zero => exact absurd few (by simp [Production.rank])
      | succ n =>
        obtain ⟨b, budget⟩ : ∃ b, d + (b + 1) = Grammar.maxDepth :=
          ⟨Grammar.maxDepth - (d + 1), by omega⟩
        have behind := (List.suffix_cons leftParenToken (openings n rest)).trans suffix
        have shown : s.front (openings (n + 1) rest) = leftParenToken := rfl
        have noLiteral : leftParenToken.literal? = none := rfl
        have opens : leftParenToken.mark? = some .leftParen := rfl
        have inner := ih (p := .expression) (d := d + 1) behind (by omega)
          (by simp only [Production.rank] at few ⊢; omega)
        have passed : advance ⟨s.moveTo (openings (n + 1) rest), d + 1⟩ =
            some (.ok leftParenToken, ⟨s.moveTo (openings n rest), d + 1⟩) :=
          advance_apply suffix rfl
        simp only [bind_apply, peek_apply suffix, shown, noLiteral, opens, if_true, get_apply,
          deepen_apply budget, passed, inner]

/-! ## The least budget -/

/-- Whether a budget for calls is enough: whatever the tokens are, and whatever has been asked
for and counted before, the next parse has its outcome. -/
def Suffices (calls : Nat) : Prop :=
  ∀ (ts : List Token) (sink : List Diagnostic) (earlier : List Session.Call) (depth : Nat),
    let s := ((Session.startAfter sink ts).run earlier).2
    ∃ after, parse calls ⟨s, depth⟩ = some (s.parse.1, ⟨s.parse.2, after⟩)

/-- Nine levels of calls for each level of depth, and nine more, are enough for every parse, and
no fewer are: with as many parentheses as can be nested, a literal behind them is read by a call
on the last of these levels. -/
theorem isLeast_suffices : IsLeast {calls | Suffices calls} (9 * (Grammar.maxDepth + 1)) := by
  constructor
  · intro ts sink earlier depth s
    have inside := (Session.run_outlook (Session.inside_startAfter sink ts) earlier).2.2.inside
      (Session.inside_startAfter sink ts)
    rcases parse_apply inside depth with ⟨after, outcome⟩
    refine ⟨after, ?_⟩
    rw [parse_eq (by decide), outcome]
  · intro calls enough
    by_contra few
    let ts := openings Grammar.maxDepth []
    let s := Session.startAfter [] ts
    rcases enough ts [] [] 0 with ⟨after, outcome⟩
    have inside : s.Inside := Nat.zero_le _
    have here : s = s.moveTo ts := (Session.moveTo_rest inside).symm
    have hnone : production calls .expression ⟨s.moveTo ts, 0⟩ = none :=
      production_openings (List.suffix_refl _) (Nat.le_of_eq (Nat.zero_add _))
        (by simp only [Production.rank]; omega)
    rw [← here] at hnone
    simp [parse, bind_apply, modify_apply, hnone, Session.run, s] at outcome

example : 9 * (Grammar.maxDepth + 1) = 2304 := rfl

end Budgeted

end LoxExpr.Walk
