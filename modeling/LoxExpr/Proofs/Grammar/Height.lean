import LoxExpr.Proofs.Grammar.Reading

/-!
# Height and nesting

The limit of a parse is a limit for the nesting of the tree, and a tree can be higher
than it is nested.  A chain charges its right operands for the operators in front of
them, but in the tree an operand lies under the operators behind it, and the first
operand, like the condition of a conditional, is charged nothing at all.  So a product
of many factors can be the first term of a sum without the sum costing more.

Main results:

- Theorem `Expr.height_le_nest_add_one`: a tree is no higher than its nesting allows if
  no operand is higher than what is charged behind it.
- Theorem `Expr.height_le_iff`: a tree that nests within some levels leaves them only by a
  left operand or a condition.
- Theorem `parse_height_le_iff`: the lists of tokens for which the limit for the nesting
  is a limit for the height.
- Theorem `ProductSum.parse_tokens_height`: a product of 256 factors and one more term
  are parsed to a tree that is too high.
-/

namespace LoxExpr

/-! ## Trees that are charged for their height -/

namespace Expr

/-- Whether every left operand and every condition is at most as high as the levels that
are charged for what is folded behind it. -/
def RightHeavy : Expr → Prop
  | .literal _ => True
  | .grouping inner => inner.RightHeavy
  | .unary _ right => right.RightHeavy
  | .binary left operator right =>
    left.RightHeavy ∧ right.RightHeavy ∧
      left.height ≤ operator.chain?.elim 0 left.links + 1 + right.nest
  | .conditional condition positive negative =>
    condition.RightHeavy ∧ positive.RightHeavy ∧ negative.RightHeavy ∧
      condition.height ≤ max positive.nest negative.nest + 1
  | .sequence left right =>
    left.RightHeavy ∧ right.RightHeavy ∧ left.height ≤ left.links .sequence + 1 + right.nest

/-- The nesting of a right-heavy tree accounts for its height. -/
theorem height_le_nest_add_one {e : Expr} (h : e.RightHeavy) : e.height ≤ e.nest + 1 := by
  induction e with
  | literal v => exact Nat.le_refl 1
  | grouping inner ih => exact Nat.succ_le_succ (ih h)
  | unary operator right ih => exact Nat.succ_le_succ (ih h)
  | binary left operator right ihLeft ihRight =>
    rcases h with ⟨heavyLeft, heavyRight, charged⟩
    have ofRight := ihRight heavyRight
    simp only [height, nest]
    omega
  | conditional condition positive negative _ ihPositive ihNegative =>
    rcases h with ⟨_, heavyPositive, heavyNegative, charged⟩
    have ofPositive := ihPositive heavyPositive
    have ofNegative := ihNegative heavyNegative
    simp only [height, nest]
    omega
  | sequence left right ihLeft ihRight =>
    rcases h with ⟨heavyLeft, heavyRight, charged⟩
    have ofRight := ihRight heavyRight
    simp only [height, nest]
    omega

/-! ## Where trees are too high -/

/-- Whether a left operand or a condition does not fit into the levels that are left where it
hangs.  It hangs on a path from the root that goes on through what is charged alone: through
right operands, branches and what is grouped. -/
def Overhangs : Nat → Expr → Prop
  | _, .literal _ => False
  | levels, .grouping inner => inner.Overhangs (levels - 1)
  | levels, .unary _ right => right.Overhangs (levels - 1)
  | levels, .binary left _ right => levels ≤ left.height ∨ right.Overhangs (levels - 1)
  | levels, .conditional condition positive negative =>
    levels ≤ condition.height ∨ positive.Overhangs (levels - 1) ∨ negative.Overhangs (levels - 1)
  | levels, .sequence left right => levels ≤ left.height ∨ right.Overhangs (levels - 1)

/-- A tree that nests within some levels fits into them exactly if it does not overhang. -/
theorem height_le_iff {e : Expr} {levels : Nat} (nested : e.nest < levels) :
    e.height ≤ levels ↔ ¬e.Overhangs levels := by
  induction e generalizing levels with
  | literal v =>
    simp only [height, Overhangs, not_false_eq_true, iff_true]
    omega
  | grouping inner ih | unary operator inner ih =>
    simp only [nest] at nested
    have fits : inner.nest < levels - 1 := by omega
    rw [height, Overhangs, ← ih fits]
    omega
  | binary left operator right _ ih | sequence left right _ ih =>
    simp only [nest] at nested
    have fits : right.nest < levels - 1 := by omega
    rw [height, Overhangs, not_or, ← ih fits]
    omega
  | conditional condition positive negative _ ihPositive ihNegative =>
    simp only [nest] at nested
    have positiveFits : positive.nest < levels - 1 := by omega
    have negativeFits : negative.nest < levels - 1 := by omega
    rw [height, Overhangs, not_or, not_or, ← ihPositive positiveFits, ← ihNegative negativeFits]
    omega

end Expr

/-- A parse returns no tree above the height that the limit stands for exactly when the
tokens in front of the end spell no canonical tree that nests within the limit and from which
a left operand or a condition hangs below it.  Right-heavy trees are never higher. -/
theorem parse_height_le_iff (ts : List Token) :
    ((∀ e, parse ts = .ok e → e.height ≤ Grammar.maxDepth + 1) ↔
      ∀ e : Expr, e.Canonical → e.SpelledBy (Grammar.beforeEnd ts) → e.nest ≤ Grammar.maxDepth →
        ¬e.Overhangs (Grammar.maxDepth + 1)) ∧
    ∀ e, parse ts = .ok e → e.RightHeavy → e.height ≤ Grammar.maxDepth + 1 := by
  have returned (e : Expr) : parse ts = .ok e ↔
      e.Canonical ∧ e.nest ≤ Grammar.maxDepth ∧ e.SpelledBy (Grammar.beforeEnd ts) := by
    rw [parse_eq_ok]
    exact Grammar.complete_eq_ok_iff
  constructor
  · constructor
    · intro low e canonical spelled nest
      rw [← Expr.height_le_iff (Nat.lt_succ_of_le nest)]
      exact low e ((returned e).2 ⟨canonical, nest, spelled⟩)
    · intro fits e parsed
      rcases (returned e).1 parsed with ⟨canonical, nest, spelled⟩
      rw [Expr.height_le_iff (Nat.lt_succ_of_le nest)]
      exact fits e canonical spelled nest
  · intro e parsed heavy
    rcases (returned e).1 parsed with ⟨_, nest, _⟩
    exact Nat.le_trans (Expr.height_le_nest_add_one heavy) (Nat.succ_le_succ nest)

/-! ## Long chains -/

namespace Chain

variable {level : Chain} {t : Token} {first item : Expr}

/-- A chain is higher than its operands. -/
theorem height_join (level : Chain) (left right : Expr) (t : Token) :
    (level.join left t right).height = max left.height right.height + 1 := by
  cases level <;> rfl

/-- A chain of equal operands behind a first one. -/
def repeated (level : Chain) (t : Token) (first item : Expr) : Nat → Expr
  | 0 => first
  | n + 1 => level.join (repeated level t first item n) t item

/-- The tokens of such a chain. -/
def repeatedTokens (t : Token) (first item : List Token) (n : Nat) : List Token :=
  first ++ (List.replicate n (t :: item)).flatten

/-- Every operand behind the first one adds an operator. -/
theorem links_repeated (h : t.chain? = some level) (n : Nat) :
    (level.repeated t first item n).links level = first.links level + n := by
  induction n with
  | zero => rfl
  | succ n ih =>
    rw [repeated, links_join h, ih]
    rfl

/-- The last operand is nested as deeply as the chain is long. -/
theorem nest_repeated_le (h : t.chain? = some level) (n : Nat) :
    (level.repeated t first item n).nest ≤ max first.nest (first.links level + n + item.nest) := by
  induction n with
  | zero => exact Nat.le_max_left _ _
  | succ n ih =>
    rw [repeated, nest_join h, links_repeated h]
    omega

/-- Every operand behind the first one lifts the chain. -/
theorem height_repeated (low : item.height ≤ first.height) (n : Nat) :
    (level.repeated t first item n).height = first.height + n := by
  induction n with
  | zero => rfl
  | succ n ih =>
    rw [repeated, height_join]
    omega

/-- A chain of shaped operands is shaped. -/
theorem shaped_repeated (h : t.chain? = some level)
    (shapedFirst : Grammar.Shaped (.chain level) first)
    (shapedItem : Grammar.Shaped level.item item) (n : Nat) :
    Grammar.Shaped (.chain level) (level.repeated t first item n) := by
  induction n with
  | zero => exact shapedFirst
  | succ n ih => exact .link h ih shapedItem

/-- A chain is spelled by its operands with the operator between them. -/
theorem spelledBy_repeated (h : t.chain? = some level) {us vs : List Token}
    (spelledFirst : first.SpelledBy us) (spelledItem : item.SpelledBy vs) (n : Nat) :
    (level.repeated t first item n).SpelledBy (repeatedTokens t us vs n) := by
  induction n with
  | zero => simpa [repeated, repeatedTokens] using spelledFirst
  | succ n ih =>
    refine (spelledBy_join h).2 ⟨repeatedTokens t us vs n, t, vs, ?_, ih, h, rfl, spelledItem⟩
    simp [repeatedTokens, List.replicate_succ']

end Chain

/-! ## A product in a sum -/

namespace ProductSum

/-- The number of every factor and term. -/
def one : Literal :=
  .number ⟨0x3FF0000000000000⟩

/-- The token of that number. -/
def oneToken : Token :=
  ⟨.number ⟨0x3FF0000000000000⟩, "1", 1⟩

/-- The sign of the product. -/
def star : Token :=
  ⟨.mark .star, "*", 1⟩

/-- The sign of the sum. -/
def plus : Token :=
  ⟨.mark .plus, "+", 1⟩

/-- The tree of `1*1*...*1`, with 256 factors. -/
def product : Expr :=
  Chain.multiplication.repeated star (.literal one) (.literal one) 255

/-- The tree of the product and one more term. -/
def tree : Expr :=
  .binary product plus (.literal one)

/-- The tokens of `1*1*...*1+1`. -/
def tokens : List Token :=
  Chain.repeatedTokens star [oneToken] [oneToken] 255 ++ [plus, oneToken]

theorem chain?_star : star.chain? = some .multiplication := rfl

theorem chain?_plus : plus.chain? = some .addition := rfl

/-- The sum is a canonical tree. -/
theorem canonical_tree : tree.Canonical := by
  have shapedOne : Grammar.Shaped .unary (.literal one) := .primary (.literal rfl)
  have shapedTerm : Grammar.Shaped (.chain .multiplication) (.literal one) := .item shapedOne
  have shapedProduct : Grammar.Shaped (.chain .multiplication) product :=
    Chain.shaped_repeated chain?_star shapedTerm shapedOne 255
  have shapedFirst : Grammar.Shaped (.chain .addition) product := .item shapedProduct
  have shapedSum : Grammar.Shaped (.chain .addition) tree :=
    .link chain?_plus shapedFirst shapedTerm
  exact .last (.condition (.item (.item shapedSum)))

/-- The product uses the limit up, and the sum charges one level only. -/
theorem nest_tree_le : tree.nest ≤ Grammar.maxDepth := by
  have ofProduct : product.nest ≤ 255 := Chain.nest_repeated_le chain?_star 255
  have noSum : product.links .addition = 0 :=
    Chain.links_join_of_ne chain?_star (by decide) _ _
  have sum : tree.nest = max product.nest (product.links .addition + 1 + 0) := rfl
  rw [sum, noSum]
  exact Nat.max_le.2 ⟨ofProduct, by decide⟩

/-- The sum is spelled by its tokens. -/
theorem spelledBy_tokens : tree.SpelledBy tokens := by
  have spelledOne : (Expr.literal one).SpelledBy [oneToken] :=
    Expr.spelledBy_literal.2 ⟨oneToken, rfl, rfl⟩
  have spelledProduct := Chain.spelledBy_repeated chain?_star spelledOne spelledOne 255
  exact Expr.spelledBy_binary.2 ⟨_, _, rfl, spelledProduct, spelledOne⟩

/-- The product is higher by one for every sign, and the sum for one more. -/
theorem height_tree : tree.height = Grammar.maxDepth + 2 := by
  have ofProduct : product.height = 1 + 255 := Chain.height_repeated (Nat.le_refl _) 255
  have sum : tree.height = max product.height 1 + 1 := rfl
  rw [sum, ofProduct]
  rfl

/-- The limit for the nesting lets a tree pass that is higher than it. -/
theorem parse_tokens_height :
    ∃ e, parse tokens = .ok e ∧ Grammar.maxDepth + 1 < e.height := by
  have whole : Grammar.beforeEnd tokens = tokens :=
    Grammar.beforeEnd_eq_self (canonical_tree.isEnd_eq_false spelledBy_tokens)
  refine ⟨tree, ?_, ?_⟩
  · refine parse_eq_ok.2 (Grammar.complete_eq_ok_iff.2 ⟨canonical_tree, nest_tree_le, ?_⟩)
    rw [whole]
    exact spelledBy_tokens
  · rw [height_tree]
    exact Nat.lt_succ_self _

end ProductSum

end LoxExpr
