import LoxExpr.Proofs.Grammar.Height
import Mathlib.Order.Bounds.Defs
import Mathlib.Order.Monotone.Basic
import Mathlib.Tactic.Ring

/-!
# The highest trees

A limit for the nesting is also a limit for the height, but a much greater one.  The first
operand of a chain is charged nothing for the chain, so the five levels of chains can stand
one on top of the other, and each of them spends the whole budget again.  Below them, a
parenthesis costs one unit, and what it encloses does the same with the units that are left.

Main results:

- Theorem `Shaped.height_le_peak`: no tree of a production is higher than its peak within
  the budget.
- Theorem `attains_tower`: within every budget there is a tower that is as high as that.
- Theorem `isGreatest_height`: the greatest height of a tree that is read within a limit,
  and of a tree that a parse returns.
-/

namespace LoxExpr

namespace Grammar

/-! ## How high a tree can be -/

/-- The greatest height, within a budget, of a tree that is no chain: a literal, or an
operator or a parenthesis in front of a tree with one unit less. -/
def operandPeak : Nat → Nat
  | 0 => 1
  | budget + 1 => operandPeak budget + 5 * budget + 1

/-- How many levels of chains a tree of a production can have, one on top of the other. -/
def storeys : Production → Nat
  | .unary | .primary => 0
  | .chain .multiplication => 1
  | .chain .addition => 2
  | .chain .comparison => 3
  | .chain .equality => 4
  | .conditional | .chain .sequence | .expression => 5

/-- The greatest height of a tree of a production within a budget.  Each level of chains
spends the whole budget. -/
def peak (p : Production) (budget : Nat) : Nat :=
  operandPeak budget + storeys p * budget

/-- A greater budget allows higher operands. -/
theorem operandPeak_mono {b c : Nat} (h : b ≤ c) : operandPeak b ≤ operandPeak c := by
  refine monotone_nat_of_le_succ (fun n => ?_) h
  rw [operandPeak]
  omega

/-- A chain adds one storey, which is as high as the budget, to its items. -/
theorem peak_chain (level : Chain) (b : Nat) :
    peak (.chain level) b = peak level.item b + b := by
  have above : storeys (.chain level) = storeys level.item + 1 := by
    cases level <;> rfl
  rw [peak, above, Nat.succ_mul, peak, Nat.add_assoc]

/-- The highest primary expressions are the highest operands. -/
theorem peak_primary (b : Nat) : peak .primary b = operandPeak b := by
  rw [peak, storeys, Nat.zero_mul, Nat.add_zero]

/-- A parenthesis is higher than the expressions for which it leaves a budget. -/
theorem peak_expression_succ (b : Nat) : peak .expression b + 1 = peak .primary (b + 1) := by
  rw [peak_primary, peak, storeys, operandPeak]

/-- The height of the highest expressions, without recursion. -/
theorem peak_expression (b : Nat) : peak .expression b = 1 + b + 5 * b * (b + 1) / 2 := by
  induction b with
  | zero => rfl
  | succ b ih =>
    have step : 5 * (b + 1) * (b + 1 + 1) = 5 * b * (b + 1) + 2 * (5 * (b + 1)) := by ring
    rw [step, Nat.add_mul_div_left _ _ Nat.two_pos]
    simp only [peak, storeys, operandPeak] at ih ⊢
    omega

/-! ## No tree is higher -/

/-- No chain has more operators than levels of nesting. -/
theorem links_le_nest (level : Chain) (e : Expr) : e.links level ≤ e.nest := by
  cases e with
  | binary left operator right =>
    rw [Expr.links]
    split
    next operator =>
      simp only [Expr.nest, operator, Option.elim_some]
      omega
    next => exact Nat.zero_le _
  | sequence left right =>
    rw [Expr.links]
    split
    next same =>
      rw [same, Expr.nest]
      omega
    next => exact Nat.zero_le _
  | _ => exact Nat.zero_le _

/-- Whether a tree of a production is only as high as every budget for its nesting allows.
A chain that can go on is only as much higher than its items as it has operators. -/
def Low : Production → Expr → Prop
  | .chain level, e => ∀ b, e.nest ≤ b → e.height ≤ peak level.item b + e.links level
  | p, e => ∀ b, e.nest ≤ b → e.height ≤ peak p b

/-- A low tree is no higher than its production allows. -/
theorem Low.height_le {p : Production} {e : Expr} (low : Low p e) {b : Nat}
    (nest : e.nest ≤ b) : e.height ≤ peak p b := by
  cases p with
  | chain level =>
    have soFar := low b nest
    have links := links_le_nest level e
    rw [peak_chain]
    omega
  | _ => exact low b nest

/-- A further item leaves a chain low. -/
theorem Low.join {level : Chain} {l r : Expr} {t : Token} (lowLeft : Low (.chain level) l)
    (operator : t.chain? = some level) (lowRight : Low level.item r) :
    Low (.chain level) (level.join l t r) := by
  intro b nest
  rw [Chain.nest_join operator] at nest
  have left := lowLeft b (by omega)
  have right : r.height ≤ peak level.item b := lowRight.height_le (by omega)
  rw [Chain.height_join, Chain.links_join operator]
  omega

/-- Every tree of a production is low. -/
theorem Shaped.low {p : Production} {e : Expr} (shaped : Shaped p e) : Low p e := by
  -- The units that a construct is charged are those by which its parts have to be lower.
  induction shaped with
  | literal =>
    intro b _
    rw [peak_primary]
    exact operandPeak_mono (Nat.zero_le b)
  | grouping _ ih =>
    intro b nest
    simp only [Expr.nest] at nest
    obtain ⟨n, rfl⟩ : ∃ n, b = n + 1 := ⟨b - 1, by omega⟩
    have inner := ih.height_le (Nat.le_of_succ_le_succ nest)
    rw [← peak_expression_succ]
    exact Nat.succ_le_succ inner
  | primary _ ih => exact ih
  | unary _ _ ih =>
    intro b nest
    simp only [Expr.nest] at nest
    obtain ⟨n, rfl⟩ : ∃ n, b = n + 1 := ⟨b - 1, by omega⟩
    have right := ih.height_le (Nat.le_of_succ_le_succ nest)
    simp only [Expr.height, peak, storeys, operandPeak] at right ⊢
    omega
  | @item level _ _ ih =>
    intro b nest
    exact Nat.le_trans (ih.height_le nest) (Nat.le_add_right _ _)
  | link operator _ _ ihLeft ihRight => exact ihLeft.join operator ihRight
  | condition _ ih =>
    intro b nest
    have equality := ih.height_le nest
    simp only [peak, storeys] at equality ⊢
    omega
  | conditional _ _ _ ihCondition ihPositive ihNegative =>
    intro b nest
    simp only [Expr.nest] at nest
    obtain ⟨n, rfl⟩ : ∃ n, b = n + 1 := ⟨b - 1, by omega⟩
    have condition := ihCondition.height_le (b := n + 1) (by omega)
    have positive := ihPositive.height_le (b := n) (by omega)
    have negative := ihNegative.height_le (b := n) (by omega)
    simp only [Expr.height, peak, storeys, operandPeak] at condition positive negative ⊢
    omega
  | last _ ih => exact fun b nest => ih.height_le nest
  | @sequence l r _ _ ihLeft ihRight =>
    intro b nest
    simp only [Expr.nest] at nest
    have left : l.height ≤ peak (.chain .equality) b + l.links .sequence := ihLeft b (by omega)
    obtain ⟨n, rfl⟩ : ∃ n, b = n + 1 := ⟨b - 1, by omega⟩
    have right := ihRight.height_le (b := n) (by omega)
    simp only [Expr.height, peak, storeys, operandPeak] at left right ⊢
    omega

/-- No tree of a production is higher than its peak within the budget. -/
theorem Shaped.height_le_peak {p : Production} {e : Expr} (shaped : Shaped p e) {b : Nat}
    (nest : e.nest ≤ b) : e.height ≤ peak p b :=
  shaped.low.height_le nest

/-! ## Towers -/

/-- An operator of each level. -/
def sign : Chain → Token
  | .sequence => ⟨.mark .comma, ",", 1⟩
  | .equality => ⟨.mark .equalEqual, "==", 1⟩
  | .comparison => ⟨.mark .less, "<", 1⟩
  | .addition => ⟨.mark .plus, "+", 1⟩
  | .multiplication => ⟨.mark .star, "*", 1⟩

/-- All levels of chains, one on top of the other, with as many operators each. -/
def stacked (operators : Nat) (core : Expr) : Expr :=
  [Chain.multiplication, .addition, .comparison, .equality, .sequence].foldl
    (fun e level => level.repeated (sign level) e (.literal .nil) operators) core

/-- The highest tree within a budget: all levels of chains on a parenthesis, and the highest
tree within the budget that is left inside of it. -/
def tower : Nat → Expr
  | 0 => .literal .nil
  | budget + 1 => stacked (budget + 1) (.grouping (tower budget))

/-- Whether a tree of a production, within a budget, has a given height. -/
structure Attains (b : Nat) (p : Production) (e : Expr) (height : Nat) : Prop where
  shaped : Shaped p e
  nest_le : e.nest ≤ b
  spelled : ∃ ts, e.SpelledBy ts
  height_eq : e.height = height

/-- The operators are those of their levels. -/
theorem chain?_sign (level : Chain) : (sign level).chain? = some level := by
  cases level <;> rfl

/-- The literal of the items is spelled by its word. -/
theorem spelledBy_nil : (Expr.literal .nil).SpelledBy [⟨.keyword .kwNil, "nil", 1⟩] :=
  Expr.spelledBy_literal.2 ⟨_, rfl, rfl⟩

/-- A chain on top of an item spends the budget once more. -/
theorem Attains.repeated {b height : Nat} {level : Chain} {e : Expr}
    (attains : Attains b level.item e height) :
    Attains b (.chain level) (level.repeated (sign level) e (.literal .nil) b)
      (height + b) := by
  have operator := chain?_sign level
  rcases attains.spelled with ⟨ts, spelled⟩
  have within := attains.nest_le
  have nest : (level.repeated (sign level) e (.literal .nil) b).nest ≤
      max e.nest (e.links level + b + 0) := Chain.nest_repeated_le operator b
  rw [attains.shaped.links_item] at nest
  refine ⟨?_, by omega, ⟨_, Chain.spelledBy_repeated operator spelled spelledBy_nil b⟩, ?_⟩
  · exact Chain.shaped_repeated operator (.item attains.shaped) (shaped_literal rfl _) b
  · have low : (Expr.literal .nil).height ≤ e.height := e.height_pos
    rw [Chain.height_repeated low, attains.height_eq]

/-- All levels of chains on top of an operand spend the budget five times. -/
theorem Attains.stacked {b height : Nat} {core : Expr}
    (attains : Attains b .primary core height) :
    Attains b .expression (stacked b core) (height + 5 * b) := by
  have operand : Attains b Chain.multiplication.item core height :=
    { attains with shaped := .primary attains.shaped }
  have multiplication : Attains b Chain.addition.item _ _ := operand.repeated
  have addition : Attains b Chain.comparison.item _ _ := multiplication.repeated
  have comparison : Attains b Chain.equality.item _ _ := addition.repeated
  have equality : Attains b Chain.sequence.item _ _ := comparison.repeated
  have sequence := equality.repeated
  exact
    { shaped := sequence.shaped.expression_of_sequence
      nest_le := sequence.nest_le
      spelled := sequence.spelled
      height_eq := by
        have total := sequence.height_eq
        unfold Grammar.stacked
        simp only [List.foldl_cons, List.foldl_nil]
        omega }

/-- The tower within a budget is as high as an expression can be. -/
theorem attains_tower (b : Nat) : Attains b .expression (tower b) (peak .expression b) := by
  induction b with
  | zero => exact ⟨shaped_literal rfl _, Nat.le_refl 0, ⟨_, spelledBy_nil⟩, rfl⟩
  | succ b ih =>
    rcases ih.spelled with ⟨ts, spelled⟩
    have parenthesized : Attains (b + 1) .primary (.grouping (tower b)) (operandPeak (b + 1)) :=
      { shaped := .grouping ih.shaped
        nest_le := Nat.succ_le_succ ih.nest_le
        spelled := ⟨_, Expr.spelledBy_grouping.2
          ⟨⟨.mark .leftParen, "(", 1⟩, ts, ⟨.mark .rightParen, ")", 1⟩, rfl, rfl, spelled, rfl⟩⟩
        height_eq := by rw [Expr.height, ih.height_eq, peak_expression_succ, peak_primary] }
    exact parenthesized.stacked

/-- The peak of expressions is the greatest height of a tree that is read within a limit. -/
theorem isGreatest_peak (limit : Nat) :
    IsGreatest {height | ∃ ts e rest, complete limit ts = .ok (e, rest) ∧ e.height = height}
      (peak .expression limit) := by
  constructor
  · have attains := attains_tower limit
    rcases attains.spelled with ⟨ts, spelled⟩
    have whole : beforeEnd ts = ts := beforeEnd_eq_self (attains.shaped.isEnd_eq_false spelled)
    rw [← whole] at spelled
    rcases complete_eq_ok_iff.2 ⟨attains.shaped, attains.nest_le, spelled⟩ with ⟨rest, read⟩
    exact ⟨ts, tower limit, rest, read, attains.height_eq⟩
  · rintro height ⟨ts, e, rest, read, rfl⟩
    rcases complete_eq_ok_iff.1 ⟨rest, read⟩ with ⟨canonical, nest, _⟩
    exact canonical.height_le_peak nest

end Grammar

/-- Within a limit `n` for the nesting, the greatest height of a tree is
`1 + n + 5 * n * (n + 1) / 2`, so the greatest height of a tree that a parse returns is
163456. -/
theorem isGreatest_height :
    (∀ limit : Nat,
      IsGreatest
        {height | ∃ ts e rest, Grammar.complete limit ts = .ok (e, rest) ∧ e.height = height}
        (1 + limit + 5 * limit * (limit + 1) / 2)) ∧
    IsGreatest {height | ∃ ts e, parse ts = .ok e ∧ e.height = height} 163456 := by
  have within (limit : Nat) := Grammar.isGreatest_peak limit
  simp only [Grammar.peak_expression] at within
  refine ⟨within, ?_⟩
  have parsed : {height | ∃ ts e, parse ts = .ok e ∧ e.height = height} =
      {height | ∃ ts e rest,
        Grammar.complete Grammar.maxDepth ts = .ok (e, rest) ∧ e.height = height} := by
    simp only [parse_eq_ok, exists_and_right]
  rw [parsed]
  exact within Grammar.maxDepth

end LoxExpr
