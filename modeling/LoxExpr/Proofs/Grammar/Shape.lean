import LoxExpr.Grammar.Descent
import Mathlib.Data.List.Forall2

/-!
# The shape of parsed trees

What can be said about a tree without running the parser: the tokens that spell it,
how deeply its parts are nested, and whether it is folded the way the grammar folds.
The grammar of shapes is unambiguous where the productions are not: a conditional
takes in every comma behind it, so the items of a comma list are equalities, and only
what follows the last comma may be a conditional.

Main results:

- Theorems `Token.mark?_eq_some_iff`, `Token.literal?_eq_some_iff`, `Token.isUnary_iff` and
  `Token.chain?_eq_some_iff`: the marks, the literals and the operators of every kind, by the
  symbols they are written with.
- Theorem `Chain.spelledBy_join`: joining two operands by an operator of a chain puts the
  operator between their tokens.
- Theorem `Chain.nest_join`: the n-th operator of a chain nests its right operand n
  levels deep.
- Theorems `Shaped.inExpression` and `Shaped.isEnd_eq_false`: the tokens of a shaped tree
  are those that can occur in an expression, and none of them ends the input.
-/

namespace LoxExpr

/-! ## Vocabulary -/

/-- The values that symbols have as literals: numbers, strings and three reserved words. -/
inductive Symbol.Denotes : Symbol → Literal → Prop
  | number (value : Binary64) : Denotes (.number value) (.number value)
  | string (value : String) : Denotes (.string value) (.string value)
  | kwTrue : Denotes (.keyword .kwTrue) (.boolean true)
  | kwFalse : Denotes (.keyword .kwFalse) (.boolean false)
  | kwNil : Denotes (.keyword .kwNil) .nil

/-- The operators of a level. -/
def Chain.operators : Chain → List Mark
  | .sequence => [.comma]
  | .equality => [.bangEqual, .equalEqual]
  | .comparison => [.greater, .greaterEqual, .less, .lessEqual]
  | .addition => [.minus, .plus]
  | .multiplication => [.slash, .star]

/-- The level of a mark is the one that has it as an operator. -/
theorem Chain.ofMark?_eq_some_iff {mark : Mark} {level : Chain} :
    Chain.ofMark? mark = some level ↔ mark ∈ level.operators := by
  cases level <;> cases mark <;> decide

namespace Token

variable {t : Token}

/-- A token is the mark that its symbol is. -/
theorem mark?_eq_some_iff {mark : Mark} : t.mark? = some mark ↔ t.symbol = .mark mark := by
  rcases t with ⟨symbol, lexeme, line⟩
  cases symbol <;> simp [mark?]

/-- A token is the literal that its symbol denotes. -/
theorem literal?_eq_some_iff {v : Literal} : t.literal? = some v ↔ t.symbol.Denotes v := by
  rw [literal?]
  generalize t.symbol = symbol
  constructor
  · intro h
    unfold Literal.ofSymbol? at h
    split at h <;> cases h <;> constructor
  · intro denotes
    cases denotes <;> rfl

/-- The operators with one operand are the two signs of negation. -/
theorem isUnary_iff : t.isUnary = true ↔ t.mark? = some .bang ∨ t.mark? = some .minus := by
  rw [isUnary, Bool.or_eq_true, beq_iff_eq, beq_iff_eq]

/-- A token continues a chain if it is an operator of its level. -/
theorem chain?_eq_some_iff {level : Chain} :
    t.chain? = some level ↔ ∃ mark ∈ level.operators, t.mark? = some mark := by
  rw [chain?, Option.bind_eq_some_iff]
  constructor
  · intro joined
    rcases joined with ⟨mark, is, joins⟩
    exact ⟨mark, Chain.ofMark?_eq_some_iff.1 joins, is⟩
  · intro operator
    rcases operator with ⟨mark, joins, is⟩
    exact ⟨mark, is, Chain.ofMark?_eq_some_iff.2 joins⟩

end Token

/-! ## Spelling -/

/-- What a tree requires of one of its tokens. -/
inductive Piece
  | value (v : Literal)
  | operator (t : Token)
  | mark (m : Mark)
deriving DecidableEq

/-- A literal is met by a token with its value, an operator only by itself, and
punctuation by its kind. -/
def Piece.Matches : Piece → Token → Prop
  | .value v, t => t.literal? = some v
  | .operator o, t => t = o
  | .mark m, t => t.mark? = some m

namespace Expr

/-- The flattening of a tree. -/
def flatten : Expr → List Piece
  | .literal v => [.value v]
  | .grouping inner => .mark .leftParen :: (inner.flatten ++ [.mark .rightParen])
  | .unary operator right => .operator operator :: right.flatten
  | .binary left operator right => left.flatten ++ .operator operator :: right.flatten
  | .conditional condition positive negative =>
    condition.flatten ++
      .mark .questionMark :: (positive.flatten ++ .mark .colon :: negative.flatten)
  | .sequence left right => left.flatten ++ .mark .comma :: right.flatten

/-- Whether a list of tokens is exactly the flattening of a tree. -/
def SpelledBy (e : Expr) (ts : List Token) : Prop :=
  List.Forall₂ Piece.Matches e.flatten ts

end Expr

/-- A list that matches two lists of pieces in a row splits between them. -/
theorem matches_append_iff {ps qs : List Piece} {ts : List Token} :
    List.Forall₂ Piece.Matches (ps ++ qs) ts ↔
      ∃ us vs, ts = us ++ vs ∧ List.Forall₂ Piece.Matches ps us ∧
        List.Forall₂ Piece.Matches qs vs := by
  constructor
  · intro h
    induction ps generalizing ts with
    | nil => exact ⟨[], ts, rfl, .nil, h⟩
    | cons p ps ih =>
      rcases List.forall₂_cons_left_iff.1 h with ⟨t, rest, first, later, rfl⟩
      rcases ih later with ⟨us, vs, rfl, left, right⟩
      exact ⟨t :: us, vs, rfl, .cons first left, right⟩
  · intro parts
    rcases parts with ⟨us, vs, rfl, left, right⟩
    exact List.rel_append left right

/-- A list that matches a piece and more begins with a token that meets the piece. -/
theorem matches_cons_iff {p : Piece} {ps : List Piece} {ts : List Token} :
    List.Forall₂ Piece.Matches (p :: ps) ts ↔
      ∃ t rest, ts = t :: rest ∧ p.Matches t ∧ List.Forall₂ Piece.Matches ps rest := by
  rw [List.forall₂_cons_left_iff]
  constructor
  · intro parts
    rcases parts with ⟨t, rest, first, later, rfl⟩
    exact ⟨t, rest, rfl, first, later⟩
  · intro parts
    rcases parts with ⟨t, rest, rfl, first, later⟩
    exact ⟨t, rest, first, later, rfl⟩

namespace Expr

/-- A literal is spelled by one token with its value. -/
theorem spelledBy_literal {v : Literal} {ts : List Token} :
    (Expr.literal v).SpelledBy ts ↔ ∃ t, ts = [t] ∧ t.literal? = some v := by
  simp [SpelledBy, flatten, matches_cons_iff, Piece.Matches]

/-- A grouping is spelled by its inner tree between parentheses. -/
theorem spelledBy_grouping {inner : Expr} {ts : List Token} :
    (Expr.grouping inner).SpelledBy ts ↔
      ∃ l us r, ts = l :: (us ++ [r]) ∧ l.mark? = some .leftParen ∧
        inner.SpelledBy us ∧ r.mark? = some .rightParen := by
  simp only [SpelledBy, flatten, matches_cons_iff, matches_append_iff, Piece.Matches]
  constructor
  · intro parts
    rcases parts with ⟨l, _, rfl, opens, us, _, rfl, spelled, r, _, rfl, closes, hnil⟩
    cases hnil
    exact ⟨l, us, r, rfl, opens, spelled, closes⟩
  · intro parts
    rcases parts with ⟨l, us, r, rfl, opens, spelled, closes⟩
    exact ⟨l, _, rfl, opens, us, _, rfl, spelled, r, [], rfl, closes, .nil⟩

/-- A unary tree is spelled by its operator and its operand. -/
theorem spelledBy_unary {operator : Token} {right : Expr} {ts : List Token} :
    (Expr.unary operator right).SpelledBy ts ↔
      ∃ us, ts = operator :: us ∧ right.SpelledBy us := by
  simp [SpelledBy, flatten, matches_cons_iff, Piece.Matches]

/-- A binary tree is spelled by its operands with the operator between them. -/
theorem spelledBy_binary {left right : Expr} {operator : Token} {ts : List Token} :
    (Expr.binary left operator right).SpelledBy ts ↔
      ∃ us vs, ts = us ++ operator :: vs ∧ left.SpelledBy us ∧ right.SpelledBy vs := by
  simp only [SpelledBy, flatten, matches_cons_iff, matches_append_iff, Piece.Matches]
  constructor
  · intro parts
    rcases parts with ⟨us, _, rfl, first, _, vs, rfl, rfl, second⟩
    exact ⟨us, vs, rfl, first, second⟩
  · intro parts
    rcases parts with ⟨us, vs, rfl, first, second⟩
    exact ⟨us, _, rfl, first, operator, vs, rfl, rfl, second⟩

/-- A comma sequence is spelled by its parts with any comma between them. -/
theorem spelledBy_sequence {left right : Expr} {ts : List Token} :
    (Expr.sequence left right).SpelledBy ts ↔
      ∃ us o vs, ts = us ++ o :: vs ∧ left.SpelledBy us ∧ o.mark? = some .comma ∧
        right.SpelledBy vs := by
  simp only [SpelledBy, flatten, matches_cons_iff, matches_append_iff, Piece.Matches]
  constructor
  · intro parts
    rcases parts with ⟨us, _, rfl, first, o, vs, rfl, comma, second⟩
    exact ⟨us, o, vs, rfl, first, comma, second⟩
  · intro parts
    rcases parts with ⟨us, o, vs, rfl, first, comma, second⟩
    exact ⟨us, _, rfl, first, o, vs, rfl, comma, second⟩

/-- A conditional is spelled by its parts with the two marks between them. -/
theorem spelledBy_conditional {condition positive negative : Expr} {ts : List Token} :
    (Expr.conditional condition positive negative).SpelledBy ts ↔
      ∃ us q vs k ws, ts = us ++ q :: (vs ++ k :: ws) ∧ condition.SpelledBy us ∧
        q.mark? = some .questionMark ∧ positive.SpelledBy vs ∧ k.mark? = some .colon ∧
        negative.SpelledBy ws := by
  simp only [SpelledBy, flatten, matches_cons_iff, matches_append_iff, Piece.Matches]
  constructor
  · intro parts
    rcases parts with
      ⟨us, _, rfl, first, q, _, rfl, question, vs, _, rfl, second, k, ws, rfl, colon, third⟩
    exact ⟨us, q, vs, k, ws, rfl, first, question, second, colon, third⟩
  · intro parts
    rcases parts with ⟨us, q, vs, k, ws, rfl, first, question, second, colon, third⟩
    exact ⟨us, _, rfl, first, q, _, rfl, question, vs, _, rfl, second, k, ws, rfl, colon, third⟩

end Expr

/-- The level of sequences has the comma as its only operator. -/
theorem Token.chain?_eq_sequence_iff {t : Token} :
    t.chain? = some .sequence ↔ t.mark? = some .comma := by
  simp [Token.chain?_eq_some_iff, Chain.operators]

/-- Operands that are joined at a level are spelled with an operator of the level
between them, and this operator joins them to the same tree. -/
theorem Chain.spelledBy_join {level : Chain} {left right : Expr} {t : Token} {ts : List Token}
    (h : t.chain? = some level) :
    (level.join left t right).SpelledBy ts ↔
      ∃ us o vs, ts = us ++ o :: vs ∧ left.SpelledBy us ∧ o.chain? = some level ∧
        level.join left o right = level.join left t right ∧ right.SpelledBy vs := by
  cases level with
  | sequence => simp [Chain.join, Expr.spelledBy_sequence, Token.chain?_eq_sequence_iff]
  | _ =>
    simp only [Chain.join, Expr.spelledBy_binary, Expr.binary.injEq, true_and, and_true]
    constructor
    · intro parts
      rcases parts with ⟨us, vs, rfl, first, second⟩
      exact ⟨us, t, vs, rfl, first, h, rfl, second⟩
    · intro parts
      rcases parts with ⟨us, o, vs, rfl, first, _, rfl, second⟩
      exact ⟨us, vs, rfl, first, second⟩

/-! ## Nesting -/

namespace Expr

/-- The number of operators that a chain of some level has up to the root of a
tree. -/
def links (level : Chain) : Expr → Nat
  | .binary left operator _ =>
    if operator.chain? = some level then left.links level + 1 else 0
  | .sequence left _ => if level = .sequence then left.links level + 1 else 0
  | _ => 0

/-- How deeply the parts of a tree are nested.  The operators of a chain are counted
from the left: the right operand of the n-th one is nested n levels deep. -/
def nest : Expr → Nat
  | .literal _ => 0
  | .grouping inner => inner.nest + 1
  | .unary _ right => right.nest + 1
  | .binary left operator right =>
    max left.nest (operator.chain?.elim 0 left.links + 1 + right.nest)
  | .conditional condition positive negative =>
    max condition.nest (max (positive.nest + 1) (negative.nest + 1))
  | .sequence left right => max left.nest (left.links .sequence + 1 + right.nest)

end Expr

namespace Chain

variable {level : Chain} {t : Token}

/-- A further operator makes a chain longer by one. -/
theorem links_join (h : t.chain? = some level) (left right : Expr) :
    (level.join left t right).links level = left.links level + 1 := by
  cases level <;> simp [join, Expr.links, h]

/-- An operator of another level starts no chain of this level. -/
theorem links_join_of_ne {other : Chain} (h : t.chain? = some level) (ne : other ≠ level)
    (left right : Expr) : (level.join left t right).links other = 0 := by
  cases level <;> simp [join, Expr.links, h, ne, ne.symm]

/-- A further operator nests its right operand one level deeper than the chain is
long. -/
theorem nest_join (h : t.chain? = some level) (left right : Expr) :
    (level.join left t right).nest = max left.nest (left.links level + 1 + right.nest) := by
  cases level <;> simp [join, Expr.nest, h]

end Chain

/-! ## Shapes -/

/-- Whether a literal is a reserved word, which no expression has as its value. -/
def Literal.isKeyword : Literal → Bool
  | .keyword _ => true
  | _ => false

/-- What the operands of a chain look like.  The items of a comma list are equalities:
a conditional would have taken in the comma behind it. -/
def Chain.item : Chain → Production
  | .sequence => .chain .equality
  | level => level.operand

namespace Grammar

/-- The trees of a production, folded the way the grammar folds.  At the level of
sequences these are the lists that a comma can follow. -/
inductive Shaped : Production → Expr → Prop
  | literal {v} : v.isKeyword = false → Shaped .primary (.literal v)
  | grouping {e} : Shaped .expression e → Shaped .primary (.grouping e)
  | primary {e} : Shaped .primary e → Shaped .unary e
  | unary {t e} : t.isUnary = true → Shaped .unary e → Shaped .unary (.unary t e)
  | item {level e} : Shaped level.item e → Shaped (.chain level) e
  | link {level t l r} :
    t.chain? = some level → Shaped (.chain level) l → Shaped level.item r →
    Shaped (.chain level) (level.join l t r)
  | condition {e} : Shaped (.chain .equality) e → Shaped .conditional e
  | conditional {c p n} :
    Shaped (.chain .equality) c → Shaped .expression p → Shaped .expression n →
    Shaped .conditional (.conditional c p n)
  | last {e} : Shaped .conditional e → Shaped .expression e
  | sequence {l r} :
    Shaped (.chain .sequence) l → Shaped .conditional r → Shaped .expression (.sequence l r)

end Grammar

/-- The canonical trees: those that have the shape of an expression. -/
def Expr.Canonical (e : Expr) : Prop :=
  Grammar.Shaped .expression e

/-- The items of a chain are tighter than the chain. -/
theorem Chain.rank_item_lt (level : Chain) :
    level.item.rank < (Production.chain level).rank := by
  cases level <;> decide

namespace Grammar

/-- A tree that is tighter than a chain has no operator of the chain at its root. -/
theorem Shaped.links_eq_zero {p : Production} {e : Expr} (shaped : Shaped p e) {level : Chain}
    (tighter : p.rank < (Production.chain level).rank) : e.links level = 0 := by
  induction shaped with
  | literal | grouping | unary | conditional => rfl
  | primary _ ih => exact ih (Nat.lt_trans (by decide) tighter)
  | condition _ ih => exact ih (Nat.lt_trans (by decide) tighter)
  | last _ ih => exact ih (Nat.lt_trans (by decide) tighter)
  | @item other e _ ih => exact ih (Nat.lt_trans other.rank_item_lt tighter)
  | @link other t l r operator _ _ _ _ =>
    have ne : level ≠ other := by
      intro equal
      subst equal
      exact Nat.lt_irrefl _ tighter
    exact Chain.links_join_of_ne operator ne l r
  | sequence =>
    have bound := (Production.chain level).rank_le
    simp only [Production.rank] at tighter bound
    omega

/-- The chain of an item has no operator yet. -/
theorem Shaped.links_item {level : Chain} {e : Expr} (shaped : Shaped level.item e) :
    e.links level = 0 :=
  shaped.links_eq_zero level.rank_item_lt

/-- A literal has the shape of every production. -/
theorem shaped_literal {v : Literal} (h : v.isKeyword = false) (p : Production) :
    Shaped p (.literal v) := by
  have unary : Shaped .unary (.literal v) := .primary (.literal h)
  have multiplication : Shaped (.chain .multiplication) (.literal v) := .item unary
  have addition : Shaped (.chain .addition) (.literal v) := .item multiplication
  have comparison : Shaped (.chain .comparison) (.literal v) := .item addition
  have equality : Shaped (.chain .equality) (.literal v) := .item comparison
  cases p with
  | chain level =>
    cases level with
    | sequence => exact .item equality
    | equality => exact equality
    | comparison => exact comparison
    | addition => exact addition
    | multiplication => exact multiplication
  | expression => exact .last (.condition equality)
  | conditional => exact .condition equality
  | unary => exact unary
  | primary => exact .literal h

end Grammar

/-! ## Tokens of shaped trees -/

/-- The marks that occur in expressions. -/
def Mark.inExpression : Mark → Bool
  | .leftBrace | .rightBrace | .dot | .semicolon | .equal => false
  | _ => true

/-- Whether a token can occur in an expression: as a literal, or as one of the marks. -/
def Token.inExpression (t : Token) : Bool :=
  t.literal?.isSome || t.mark?.any Mark.inExpression

namespace Grammar

/-- A mark does not end the input. -/
theorem isEnd_eq_false_of_mark? {t : Token} {mark : Mark} (h : t.mark? = some mark) :
    t.isEnd = false := by
  simp [Token.isEnd, Token.kind, Token.mark?_eq_some_iff.1 h, Symbol.kind]

/-- An operator with one operand is a mark. -/
theorem exists_mark?_of_isUnary {t : Token} (h : t.isUnary = true) :
    ∃ mark, t.mark? = some mark := by
  rcases Token.isUnary_iff.1 h with bang | minus
  · exact ⟨_, bang⟩
  · exact ⟨_, minus⟩

/-- A literal can occur in an expression. -/
theorem inExpression_of_literal? {t : Token} {v : Literal} (h : t.literal? = some v) :
    t.inExpression = true := by
  simp [Token.inExpression, h]

/-- A token that is one of the marks of expressions can occur in one. -/
theorem inExpression_of_mark? {t : Token} {mark : Mark} (h : t.mark? = some mark)
    (occurs : mark.inExpression = true) : t.inExpression = true := by
  simp [Token.inExpression, h, occurs]

/-- The operator of a chain can occur in an expression. -/
theorem inExpression_of_chain? {t : Token} {level : Chain} (h : t.chain? = some level) :
    t.inExpression = true := by
  rcases Token.chain?_eq_some_iff.1 h with ⟨mark, operator, is⟩
  have occurs : ∀ mark ∈ level.operators, mark.inExpression = true := by
    cases level <;> decide
  exact inExpression_of_mark? is (occurs mark operator)

/-- An operator with one operand can occur in an expression. -/
theorem inExpression_of_isUnary {t : Token} (h : t.isUnary = true) : t.inExpression = true := by
  rcases Token.isUnary_iff.1 h with bang | minus
  · exact inExpression_of_mark? bang rfl
  · exact inExpression_of_mark? minus rfl

/-- Every token of a shaped tree can occur in an expression. -/
theorem Shaped.inExpression {p : Production} {e : Expr} (shaped : Shaped p e)
    {ts : List Token} (spelled : e.SpelledBy ts) : ∀ t ∈ ts, t.inExpression = true := by
  induction shaped generalizing ts with
  | literal =>
    rcases Expr.spelledBy_literal.1 spelled with ⟨t, rfl, value⟩
    simpa using inExpression_of_literal? value
  | grouping _ ih =>
    rcases Expr.spelledBy_grouping.1 spelled with ⟨l, us, r, rfl, opens, inner, closes⟩
    have first := inExpression_of_mark? opens rfl
    have final := inExpression_of_mark? closes rfl
    simpa [first, final, or_imp, forall_and] using ih inner
  | unary operator _ ih =>
    rcases Expr.spelledBy_unary.1 spelled with ⟨us, rfl, right⟩
    simpa [inExpression_of_isUnary operator] using ih right
  | primary _ ih | item _ ih | condition _ ih | last _ ih => exact ih spelled
  | link operator _ _ ihLeft ihRight =>
    rcases (Chain.spelledBy_join operator).1 spelled with ⟨us, o, vs, rfl, left, same, _, right⟩
    have := inExpression_of_chain? same
    simpa [this, or_imp, forall_and] using ⟨ihLeft left, ihRight right⟩
  | conditional _ _ _ ihCondition ihPositive ihNegative =>
    obtain ⟨us, q, vs, k, ws, rfl, first, question, second, colon, third⟩ :=
      Expr.spelledBy_conditional.1 spelled
    have atQuestion := inExpression_of_mark? question rfl
    have atColon := inExpression_of_mark? colon rfl
    simpa [atQuestion, atColon, or_imp, forall_and] using
      ⟨ihCondition first, ihPositive second, ihNegative third⟩
  | sequence _ _ ihLeft ihRight =>
    rcases Expr.spelledBy_sequence.1 spelled with ⟨us, o, vs, rfl, left, comma, right⟩
    have := inExpression_of_mark? comma rfl
    simpa [this, or_imp, forall_and] using ⟨ihLeft left, ihRight right⟩

/-- No token that can occur in an expression ends the input. -/
theorem isEnd_eq_false_of_inExpression {t : Token} (h : t.inExpression = true) :
    t.isEnd = false := by
  rcases t with ⟨symbol, lexeme, line⟩
  cases symbol <;> simp_all [Token.inExpression, Token.literal?, Literal.ofSymbol?, Token.mark?,
    Token.isEnd, Token.kind, Symbol.kind]

/-- No token of a shaped tree ends the input. -/
theorem Shaped.isEnd_eq_false {p : Production} {e : Expr} (shaped : Shaped p e)
    {ts : List Token} (spelled : e.SpelledBy ts) : ∀ t ∈ ts, t.isEnd = false :=
  fun t member => isEnd_eq_false_of_inExpression (shaped.inExpression spelled t member)

end Grammar

end LoxExpr
