import LoxExpr.Proofs.Grammar.Reading
import LoxExpr.Proofs.Lexical.Lines
import LoxExpr.Proofs.Number.Readback

/-!
# Legible trees

A tree can be told from a text that shows its literals and operators if these can be told
from what is shown.  A tree that is parsed from a source is of this kind if there is no string
in it: its operators are marks with their spellings, and its numbers have no sign.  Also, the
grammar makes no sequence the last part of a sequence.

Main results:

- Theorem `lexeme_or_end_of_mem_scan`: the tokens of a scan are lexemes, but for the end of the
  input.
- Theorem `written_of_mem_scan`: the tokens of a scan are spelled and valued as they are
  written.
- Theorem `Shaped.isSequence_eq_false`: only an expression and a list are sequences.
- Theorem `Shaped.legible`: a tree that written tokens spell is legible.
- Theorem `legible_of_parse_scan`: a tree that is parsed from a source is legible if there is
  no string in it.
-/

namespace LoxExpr

/-! ## Trees without lines -/

/-- A token without its line. -/
def Token.withoutLine (t : Token) : Token :=
  { t with line := 0 }

namespace Expr

/-- A tree without the lines of its operators. -/
def withoutLines : Expr → Expr
  | .literal value => .literal value
  | .grouping inner => .grouping inner.withoutLines
  | .unary operator right => .unary operator.withoutLine right.withoutLines
  | .binary left operator right =>
    .binary left.withoutLines operator.withoutLine right.withoutLines
  | .conditional condition positive negative =>
    .conditional condition.withoutLines positive.withoutLines negative.withoutLines
  | .sequence left right => .sequence left.withoutLines right.withoutLines

end Expr

/-! ## Literals, operators and trees -/

/-- Whether a literal can be told from its text: it is a number without a sign, or one of the
three words. -/
def Literal.Legible : Literal → Prop
  | .number value => value.Unsigned
  | .boolean _ | .nil => True
  | .string _ | .keyword _ => False

/-- Whether a token is a mark with its spelling, and no closing parenthesis. -/
def Token.Legible (t : Token) : Prop :=
  ∃ mark, t.symbol = .mark mark ∧ t.lexeme = mark.spelling ∧ mark ≠ .rightParen

/-- Whether a tree is a sequence. -/
def Expr.isSequence : Expr → Bool
  | .sequence _ _ => true
  | _ => false

/-- The trees that can be read back: their literals and operators are legible, and no sequence
is the last part of a sequence. -/
inductive Expr.Legible : Expr → Prop
  | literal {v} : v.Legible → Legible (.literal v)
  | grouping {e} : Legible e → Legible (.grouping e)
  | unary {t e} : t.Legible → Legible e → Legible (.unary t e)
  | binary {l t r} : Legible l → t.Legible → Legible r → Legible (.binary l t r)
  | conditional {c p n} : Legible c → Legible p → Legible n → Legible (.conditional c p n)
  | sequence {l r} : Legible l → Legible r → r.isSequence = false → Legible (.sequence l r)

namespace Literal

/-- The literal with a given text. -/
def ofText (text : String) : Literal :=
  if text = "true" then .boolean true
  else if text = "false" then .boolean false
  else if text = "nil" then .nil
  else .number (.ofText text)

/-- The text of a number is none of the words for other values. -/
theorem plainText_ne {x : Binary64} (unsigned : x.Unsigned) (word : String) (notInf : word ≠ "inf")
    (letter : word.toList.head?.any Char.isDigit = false) : x.plainText ≠ word := by
  rintro rfl
  rcases unsigned.finite_or_infinite with finite | infinite
  · rcases (unsigned.plainText_finite finite).1 with ⟨c, rest, text, digit⟩
    rw [text, List.head?_cons, Option.any_some, digit] at letter
    contradiction
  · exact notInf (unsigned.plainText_infinite infinite)

/-- A legible literal is told by its text. -/
theorem Legible.ofText_text {v : Literal} (legible : v.Legible) : ofText v.text = v := by
  cases v with
  | number x =>
    have unsigned : x.Unsigned := legible
    have notTrue := plainText_ne unsigned "true" (by decide) (by decide)
    have notFalse := plainText_ne unsigned "false" (by decide) (by decide)
    have notNil := plainText_ne unsigned "nil" (by decide) (by decide)
    rw [text, ofText, if_neg notTrue, if_neg notFalse, if_neg notNil, unsigned.ofText_plainText]
  | boolean value => cases value <;> rfl
  | nil => rfl
  | string | keyword => exact absurd legible id

end Literal

namespace Token

/-- The operator with a given spelling. -/
def ofSpelling (spelling : String) : Token :=
  match Mark.all.find? fun mark => mark.spelling == spelling with
  | some mark => ⟨.mark mark, spelling, 0⟩
  | none => ⟨.identifier, spelling, 0⟩

/-- A legible operator is told by its text. -/
theorem Legible.ofSpelling_lexeme {t : Token} (legible : t.Legible) :
    ofSpelling t.lexeme = t.withoutLine := by
  rcases t with ⟨symbol, lexeme, line⟩
  rcases legible with ⟨mark, rfl, rfl, _⟩
  cases mark <;> rfl

end Token

/-! ## Tokens of a scan -/

/-- What is known about a token that was read from a source: a mark has its spelling, and a
number no sign. -/
structure Token.Written (t : Token) : Prop where
  lexeme : ∀ mark, t.mark? = some mark → t.lexeme = mark.spelling
  value : ∀ x, t.literal? = some (.number x) → x.Unsigned

namespace Lexical

/-- The token of a lexeme is written. -/
theorem Lexeme.written {symbol : Symbol} {text rest : List Char}
    (lexeme : Lexeme (.token symbol) text rest) (line : Nat) :
    Token.Written ⟨symbol, String.ofList text, line⟩ := by
  constructor
  · intro mark is
    cases lexeme with
    | mark =>
      cases is
      exact String.ofList_toList
    | _ => cases is
  · intro x is
    cases lexeme with
    | whole | fraction =>
      cases is
      exact Binary64.unsigned_ofNumeral _
    | @keyword keyword => cases keyword <;> cases is
    | _ => cases is

end Lexical

/-- A token of a scan is a lexeme, or it is the end of the input. -/
theorem lexeme_or_end_of_mem_scan {source : String} {t : Token}
    (member : t ∈ (scan source).tokens) :
    (∃ rest, Lexical.Lexeme (.token t.symbol) t.lexeme.toList rest) ∨
      ∃ line, t = Token.endOfInput line := by
  rw [tokens_scan] at member
  rcases List.mem_append.1 member with inside | ending
  · rcases List.mem_filterMap.1 inside with ⟨⟨⟨text, role⟩, line⟩, placed, token⟩
    have segment : ⟨text, role⟩ ∈ Lexical.segments source.toList := by
      rw [← Lexical.map_segment_place 1 (Lexical.segments source.toList)]
      exact List.mem_map_of_mem placed
    rcases Lexical.exists_lexeme_of_mem_segments segment with ⟨rest, lexeme⟩
    cases role with
    | token symbol =>
      cases token
      rw [String.toList_ofList]
      exact .inl ⟨rest, lexeme⟩
    | _ => cases token
  · exact .inr ⟨_, List.mem_singleton.1 ending⟩

/-- The tokens of a scan are written. -/
theorem written_of_mem_scan {source : String} {t : Token} (member : t ∈ (scan source).tokens) :
    t.Written := by
  rcases lexeme_or_end_of_mem_scan member with ⟨rest, lexeme⟩ | ⟨line, rfl⟩
  · have written := lexeme.written t.line
    rwa [String.ofList_toList] at written
  · exact ⟨nofun, nofun⟩

/-! ## Parsed trees -/

/-- Whether there is a string in a tree. -/
def Expr.hasString : Expr → Bool
  | .literal (.string _) => true
  | .literal _ => false
  | .grouping inner => inner.hasString
  | .unary _ right => right.hasString
  | .binary left _ right => left.hasString || right.hasString
  | .conditional condition positive negative =>
    condition.hasString || positive.hasString || negative.hasString
  | .sequence left right => left.hasString || right.hasString

/-- A written token is a legible operator if it is one of some marks. -/
theorem Token.Written.legible {t : Token} (written : t.Written) {mark : Mark}
    (is : t.mark? = some mark) (notClosing : mark ≠ .rightParen) : t.Legible := by
  exact ⟨mark, Token.mark?_eq_some_iff.1 is, written.lexeme mark is, notClosing⟩

/-- The operator of a chain is legible if it is written. -/
theorem Token.Written.legible_of_chain? {t : Token} (written : t.Written) {level : Chain}
    (operator : t.chain? = some level) : t.Legible := by
  rcases Token.chain?_eq_some_iff.1 operator with ⟨mark, joins, is⟩
  refine written.legible is ?_
  rintro rfl
  cases level <;> contradiction

/-- An operator with one operand is legible if it is written. -/
theorem Token.Written.legible_of_isUnary {t : Token} (written : t.Written)
    (operator : t.isUnary = true) : t.Legible := by
  rcases Token.isUnary_iff.1 operator with bang | minus
  · exact written.legible bang (by decide)
  · exact written.legible minus (by decide)

/-- The value of a written token is legible if it is no string. -/
theorem Token.Written.legible_value {t : Token} (written : t.Written) {v : Literal}
    (is : t.literal? = some v) (word : v.isKeyword = false)
    (plain : (Expr.literal v).hasString = false) : v.Legible := by
  cases v with
  | number x => exact written.value x is
  | boolean | nil => trivial
  | string | keyword => contradiction

namespace Chain

/-- A chain of legible operands is legible, if its last operand is no sequence. -/
theorem legible_join {level : Chain} {left right : Expr} {t : Token} (legible : left.Legible)
    (operator : t.Legible) (legible' : right.Legible) (single : right.isSequence = false) :
    (level.join left t right).Legible := by
  cases level with
  | sequence => exact .sequence legible legible' single
  | _ => exact .binary legible operator legible'

/-- There is a string in a chain if there is one in an operand. -/
theorem hasString_join (level : Chain) (left : Expr) (t : Token) (right : Expr) :
    (level.join left t right).hasString = (left.hasString || right.hasString) := by
  cases level <;> rfl

/-- The items of a chain are no sequences. -/
theorem rank_item_le (level : Chain) : level.item.rank ≤ Production.conditional.rank := by
  cases level <;> decide

end Chain

namespace Grammar

/-- Only an expression and a list are sequences. -/
theorem Shaped.isSequence_eq_false {p : Production} {e : Expr} (shaped : Shaped p e)
    (tight : p.rank ≤ Production.conditional.rank) : e.isSequence = false := by
  induction shaped with
  | literal | grouping | unary | conditional => rfl
  | primary _ ih | condition _ ih => exact ih (by decide)
  | @item level _ _ ih => exact ih (Nat.le_trans (Nat.le_of_lt level.rank_item_lt) tight)
  | @link level => cases level <;> first | contradiction | rfl
  | last | sequence => contradiction

/-- A tree that written tokens spell is legible. -/
theorem Shaped.legible {p : Production} {e : Expr} (shaped : Shaped p e) {ts : List Token}
    (spelled : e.SpelledBy ts) (written : ∀ t ∈ ts, t.Written) (plain : e.hasString = false) :
    e.Legible := by
  induction shaped generalizing ts with
  | literal word =>
    rcases Expr.spelledBy_literal.1 spelled with ⟨t, rfl, value⟩
    exact .literal ((written t List.mem_cons_self).legible_value value word plain)
  | grouping _ ih =>
    rcases Expr.spelledBy_grouping.1 spelled with ⟨l, us, r, rfl, _, inner, _⟩
    exact .grouping (ih inner (fun t member => written t (by simp [member])) plain)
  | unary operator _ ih =>
    rcases Expr.spelledBy_unary.1 spelled with ⟨us, rfl, right⟩
    have legible := (written _ List.mem_cons_self).legible_of_isUnary operator
    exact .unary legible (ih right (fun t member => written t (by simp [member])) plain)
  | primary _ ih | item _ ih | condition _ ih | last _ ih => exact ih spelled written plain
  | @link level t l r operator _ shapedRight ihLeft ihRight =>
    rcases (Chain.spelledBy_join operator).1 spelled with ⟨us, o, vs, rfl, left, joins, same, right⟩
    rw [Chain.hasString_join, Bool.or_eq_false_iff] at plain
    rw [← same]
    exact Chain.legible_join (ihLeft left (fun t member => written t (by simp [member])) plain.1)
      ((written o (by simp)).legible_of_chain? joins)
      (ihRight right (fun t member => written t (by simp [member])) plain.2)
      (shapedRight.isSequence_eq_false level.rank_item_le)
  | conditional _ _ _ ihCondition ihPositive ihNegative =>
    obtain ⟨us, q, vs, k, ws, rfl, first, _, second, _, third⟩ :=
      Expr.spelledBy_conditional.1 spelled
    simp only [Expr.hasString, Bool.or_eq_false_iff] at plain
    rcases plain with ⟨⟨plainFirst, plainSecond⟩, plainThird⟩
    exact .conditional (ihCondition first (fun t member => written t (by simp [member])) plainFirst)
      (ihPositive second (fun t member => written t (by simp [member])) plainSecond)
      (ihNegative third (fun t member => written t (by simp [member])) plainThird)
  | sequence _ shapedRight ihLeft ihRight =>
    rcases Expr.spelledBy_sequence.1 spelled with ⟨us, o, vs, rfl, left, _, right⟩
    simp only [Expr.hasString, Bool.or_eq_false_iff] at plain
    exact .sequence (ihLeft left (fun t member => written t (by simp [member])) plain.1)
      (ihRight right (fun t member => written t (by simp [member])) plain.2)
      (shapedRight.isSequence_eq_false (by decide))

end Grammar

/-- A tree that is parsed from a source is legible if there is no string in it. -/
theorem legible_of_parse_scan {source : String} {e : Expr}
    (parsed : parse (scan source).tokens = .ok e) (plain : e.hasString = false) : e.Legible := by
  rcases Grammar.complete_eq_ok_iff.1 (parse_eq_ok.1 parsed) with ⟨canonical, _, spelled⟩
  refine canonical.legible spelled (fun t member => ?_) plain
  exact written_of_mem_scan ((List.takeWhile_prefix _).subset member)

end LoxExpr
