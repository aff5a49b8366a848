import LoxExpr.Expr.ReversePolish
import LoxExpr.Proofs.Expr.Reader

/-!
# Reading the reverse polish form

The reverse polish form shows no groupings, yet the rest of a tree can be read back from it.  A
calculator goes through the words of a form and keeps the operands that no operator has taken
yet.  A question mark and a colon begin a branch with operands of its own, and an arrow ends a
part of a sequence, whose value is then the first part of what follows.

Three things would be told wrongly, and trees with them are left out.  A string can look like
anything.  A minus may have one operand or two.  A sequence in parentheses looks as if its last
part alone belonged to the operator behind it, or as if it were the beginning of a longer one.

Main results:

- Theorem `Shaped.calculable`: a legible tree of the grammar can be calculated if nothing in it
  is told wrongly.
- Theorem `cons_reversePolishOnto`: a form is the row of its words.
- Theorem `Calculable.run?_words`: the calculator takes a tree as one operand, or as the parts of
  a sequence.
- Theorem `Calculable.ofReversePolish?_reversePolish`: a tree is read back from its form,
  without its groupings and lines.
- Theorem `reversePolish_eq_iff_of_parse`: the form of a parsed tree determines the tree up to
  its groupings and the lines of its operators.
-/

namespace LoxExpr

namespace Expr

/-! ## Trees without groupings -/

/-- A tree with the inner trees in the places of its groupings. -/
def withoutGroupings : Expr → Expr
  | .literal value => .literal value
  | .grouping inner => inner.withoutGroupings
  | .unary operator right => .unary operator right.withoutGroupings
  | .binary left operator right => .binary left.withoutGroupings operator right.withoutGroupings
  | .conditional condition positive negative =>
    .conditional condition.withoutGroupings positive.withoutGroupings negative.withoutGroupings
  | .sequence left right => .sequence left.withoutGroupings right.withoutGroupings

/-- The form of a tree shows neither its groupings nor the lines of its operators. -/
theorem reversePolishOnto_withoutGroupings_withoutLines (e : Expr) (rest : List Char) :
    e.withoutGroupings.withoutLines.reversePolishOnto rest = e.reversePolishOnto rest := by
  induction e generalizing rest with
  | literal => rfl
  | grouping inner ih => exact ih rest
  | unary operator right ih =>
    simp only [withoutGroupings, withoutLines, reversePolishOnto, Token.withoutLine, ih]
  | binary left operator right ihLeft ihRight =>
    simp only [withoutGroupings, withoutLines, reversePolishOnto, Token.withoutLine, ihLeft,
      ihRight]
  | conditional condition positive negative ihCondition ihPositive ihNegative =>
    simp only [withoutGroupings, withoutLines, reversePolishOnto, ihCondition, ihPositive,
      ihNegative]
  | sequence left right ihLeft ihRight =>
    simp only [withoutGroupings, withoutLines, reversePolishOnto, ihLeft, ihRight]

/-! ## What is told wrongly -/

/-- Whether a tree, or a tree inside of it, has a property. -/
def any (has : Expr → Bool) : Expr → Bool
  | .literal value => has (.literal value)
  | .grouping inner => has (.grouping inner) || inner.any has
  | .unary operator right => has (.unary operator right) || right.any has
  | .binary left operator right =>
    has (.binary left operator right) || left.any has || right.any has
  | .conditional condition positive negative =>
    has (.conditional condition positive negative) || condition.any has || positive.any has ||
      negative.any has
  | .sequence left right => has (.sequence left right) || left.any has || right.any has

/-- Whether the form of a tree can be taken for another one: it is a minus with one operand, or
a sequence in parentheses. -/
def isMisread : Expr → Bool
  | .unary operator _ => operator.mark? == some .minus
  | .grouping inner => inner.isSequence
  | _ => false

/-- Whether nothing in a tree is told wrongly: there is no string, no minus with one operand, and
no sequence in parentheses. -/
structure Unambiguous (e : Expr) : Prop where
  noString : e.hasString = false
  noMisread : e.any isMisread = false

/-- The trees that a calculator reads back.  Sequences occur only where no operator takes them:
they are whole trees, branches, or first parts of longer sequences. -/
inductive Calculable : Expr → Prop
  | literal {v} : v.Legible → Calculable (.literal v)
  | grouping {e} : Calculable e → e.isSequence = false → Calculable (.grouping e)
  | unary {t e} : t.Legible → t.mark? = some .bang → Calculable e → e.isSequence = false →
    Calculable (.unary t e)
  | binary {l t r} : t.Legible → t.chain?.isSome = true → Calculable l → l.isSequence = false →
    Calculable r → r.isSequence = false → Calculable (.binary l t r)
  | conditional {c p n} : Calculable c → c.isSequence = false → Calculable p → Calculable n →
    Calculable (.conditional c p n)
  | sequence {l r} : Calculable l → Calculable r → r.isSequence = false →
    Calculable (.sequence l r)

/-- Without groupings and lines, a tree is a sequence exactly if it was one. -/
theorem Calculable.isSequence_eq {e : Expr} (calculable : e.Calculable) :
    e.withoutGroupings.withoutLines.isSequence = e.isSequence := by
  induction calculable with
  | grouping _ single ih => exact ih.trans single
  | _ => rfl

end Expr

namespace Grammar

/-- Joining two operands adds nothing that is told wrongly. -/
theorem any_isMisread_join (level : Chain) (left : Expr) (t : Token) (right : Expr) :
    (level.join left t right).any Expr.isMisread =
      (left.any Expr.isMisread || right.any Expr.isMisread) := by
  cases level <;> rfl

/-- A legible tree of the grammar can be calculated if nothing in it is told wrongly. -/
theorem Shaped.calculable {p : Production} {e : Expr} (shaped : Shaped p e)
    (legible : e.Legible) (noMisread : e.any Expr.isMisread = false) : e.Calculable := by
  induction shaped with
  | literal =>
    cases legible with
    | literal value => exact .literal value
  | grouping _ ih =>
    simp only [Expr.any, Expr.isMisread, Bool.or_eq_false_iff] at noMisread
    cases legible with
    | grouping inner => exact .grouping (ih inner noMisread.2) noMisread.1
  | primary _ ih | item _ ih | condition _ ih | last _ ih => exact ih legible noMisread
  | unary operator shapedRight ih =>
    simp only [Expr.any, Expr.isMisread, Bool.or_eq_false_iff, beq_eq_false_iff_ne] at noMisread
    cases legible with
    | unary mark right =>
      have bang := (Token.isUnary_iff.1 operator).resolve_right noMisread.1
      exact .unary mark bang (ih right noMisread.2) (shapedRight.isSequence_eq_false (by decide))
  | @link level t l r operator shapedLeft shapedRight ihLeft ihRight =>
    have single := shapedRight.isSequence_eq_false level.rank_item_le
    rw [any_isMisread_join, Bool.or_eq_false_iff] at noMisread
    cases level with
    | sequence =>
      cases legible with
      | sequence left right =>
        exact .sequence (ihLeft left noMisread.1) (ihRight right noMisread.2) single
    | _ =>
      cases legible with
      | binary left mark right =>
        exact .binary mark (by rw [operator]; rfl) (ihLeft left noMisread.1)
          (shapedLeft.isSequence_eq_false (by decide)) (ihRight right noMisread.2) single
  | conditional shapedCondition _ _ ihCondition ihPositive ihNegative =>
    simp only [Expr.any, Bool.or_eq_false_iff] at noMisread
    rcases noMisread with ⟨⟨⟨_, first⟩, second⟩, third⟩
    cases legible with
    | conditional condition positive negative =>
      exact .conditional (ihCondition condition first)
        (shapedCondition.isSequence_eq_false (by decide)) (ihPositive positive second)
        (ihNegative negative third)
  | sequence _ _ ihLeft ihRight =>
    simp only [Expr.any, Bool.or_eq_false_iff] at noMisread
    rcases noMisread with ⟨⟨_, first⟩, second⟩
    cases legible with
    | sequence left right single =>
      exact .sequence (ihLeft left first) (ihRight right second) single

end Grammar

/-! ## Words -/

namespace Expr

/-- The words of the reverse polish form of a tree. -/
def words : Expr → List Sign
  | .literal value => [.atom value.text]
  | .grouping inner => inner.words
  | .unary operator right => right.words ++ [.atom operator.lexeme]
  | .binary left operator right => left.words ++ (right.words ++ [.atom operator.lexeme])
  | .conditional condition positive negative =>
    condition.words ++ .atom "?" ::
      (positive.words ++ .atom ":" :: (negative.words ++ [.atom ";"]))
  | .sequence left right => left.words ++ .arrow :: right.words

/-- A form, behind a blank, is the row of its words. -/
theorem cons_reversePolishOnto (e : Expr) (rest : List Char) :
    ' ' :: e.reversePolishOnto rest = e.words.flatMap Sign.shown ++ rest := by
  have question (text : List Char) : " ? ".toList ++ text = [' ', '?'] ++ ' ' :: text := rfl
  have colon (text : List Char) : " : ".toList ++ text = [' ', ':'] ++ ' ' :: text := rfl
  have arrow (text : List Char) : " -> ".toList ++ text = [' ', '-', '>'] ++ ' ' :: text := rfl
  induction e generalizing rest with
  | literal value => simp [reversePolishOnto, words, Sign.shown]
  | grouping inner ih => exact ih rest
  | unary operator right ih => simp [reversePolishOnto, words, Sign.shown, ih]
  | binary left operator right ihLeft ihRight =>
    simp [reversePolishOnto, words, Sign.shown, ihLeft, ihRight]
  | conditional condition positive negative ihCondition ihPositive ihNegative =>
    rw [reversePolishOnto, ihCondition, question, ihPositive, colon, ihNegative]
    simp [words, Sign.shown]
  | sequence left right ihLeft ihRight =>
    rw [reversePolishOnto, ihLeft, arrow, ihRight]
    simp [words, Sign.shown]

end Expr

namespace Literal

/-- The text of a legible literal is no mark. -/
theorem Legible.text_ne_spelling {v : Literal} (legible : v.Legible) (mark : Mark) :
    v.text ≠ mark.spelling := by
  cases v with
  | number x => exact plainText_ne legible _ (by cases mark <;> decide) (by cases mark <;> decide)
  | boolean value => cases value <;> cases mark <;> decide
  | nil => cases mark <;> decide
  | string | keyword => exact absurd legible id

/-- The text of a legible literal is not read as an operator. -/
theorem Legible.mark?_ofSpelling_text {v : Literal} (legible : v.Legible) :
    (Token.ofSpelling v.text).mark? = none := by
  have unknown : Mark.all.find? (fun mark => mark.spelling == v.text) = none :=
    List.find?_eq_none.2 fun mark _ same => legible.text_ne_spelling mark (beq_iff_eq.1 same).symm
  rw [Token.ofSpelling, unknown]
  rfl

end Literal

/-- Every mark but a parenthesis is a plain word. -/
theorem Sign.plain_spelling {mark : Mark} (notOpening : mark ≠ .leftParen)
    (notClosing : mark ≠ .rightParen) : (Sign.atom mark.spelling).Plain := by
  cases mark <;> first | contradiction | decide

/-- The text of a legible operator is a plain word, if it opens no parenthesis. -/
theorem Token.Legible.plain_atom {t : Token} (legible : t.Legible)
    (notOpening : t.mark? ≠ some .leftParen) : (Sign.atom t.lexeme).Plain := by
  rcases legible with ⟨mark, symbol, lexeme, notClosing⟩
  rw [lexeme]
  refine Sign.plain_spelling (fun opens => notOpening ?_) notClosing
  rw [Token.mark?_eq_some_iff, symbol, opens]

/-- All words of a tree that can be calculated are plain. -/
theorem Expr.Calculable.plain_words {e : Expr} (calculable : e.Calculable) :
    ∀ s ∈ e.words, s.Plain := by
  have question : (Sign.atom "?").Plain := by decide
  have colon : (Sign.atom ":").Plain := by decide
  have semicolon : (Sign.atom ";").Plain := by decide
  have arrow : Sign.arrow.Plain := trivial
  induction calculable with
  | literal value => simpa [words] using value.plain
  | grouping _ _ ih => exact ih
  | unary operator bang _ _ ih =>
    have plain := operator.plain_atom (by rw [bang]; decide)
    simpa [words, or_imp, forall_and, plain] using ih
  | @binary l t r operator joins _ _ _ _ ihLeft ihRight =>
    have notOpening : t.mark? ≠ some Mark.leftParen := fun opens => by
      rw [Token.chain?, opens] at joins
      contradiction
    have plain := operator.plain_atom notOpening
    simpa [words, or_imp, forall_and, plain] using ⟨ihLeft, ihRight⟩
  | conditional _ _ _ _ ihCondition ihPositive ihNegative =>
    simpa [words, or_imp, forall_and, question, colon, semicolon] using
      ⟨ihCondition, ihPositive, ihNegative⟩
  | sequence _ _ _ ihLeft ihRight =>
    simpa [words, or_imp, forall_and, arrow] using ⟨ihLeft, ihRight⟩

/-! ## The calculator -/

/-- What a calculator knows about a branch that it is inside of: the part of a sequence in front
of the latest arrow, and the operands behind it, the latest first. -/
structure Branch where
  earlier : Option Expr
  operands : List Expr

namespace Branch

/-- A branch that has just been opened. -/
def opened : Branch :=
  ⟨none, []⟩

/-- Takes a tree as the next operand. -/
def push (branch : Branch) (e : Expr) : Branch :=
  { branch with operands := e :: branch.operands }

/-- The tree of a branch that is left. -/
def value? (branch : Branch) : Option Expr :=
  match branch.earlier, branch.operands with
  | none, [e] => some e
  | some left, [right] => some (.sequence left right)
  | _, _ => none

/-- Takes a tree: a sequence as its parts, and any other tree as the next operand. -/
def take (branch : Branch) : Expr → Branch
  | .sequence left right => ⟨some left, [right]⟩
  | e => branch.push e

/-- A tree that is no sequence is the next operand. -/
theorem take_of_single {e : Expr} (single : e.isSequence = false) (branch : Branch) :
    branch.take e = branch.push e := by
  cases e <;> first | contradiction | rfl

/-- A branch that has taken one tree only has it as its value. -/
@[simp] theorem value?_take_opened (e : Expr) : (opened.take e).value? = some e := by
  cases e <;> rfl

/-- Applies an operator to the latest operands: a bang to one, a semicolon to the three parts of
a conditional, and any other mark to two. -/
def combine? (branch : Branch) (operator : Token) : Option Branch :=
  match operator.mark? with
  | some .bang =>
    match branch.operands with
    | right :: others => some ⟨branch.earlier, .unary operator right :: others⟩
    | _ => none
  | some .semicolon =>
    match branch.operands with
    | negative :: positive :: condition :: others =>
      some ⟨branch.earlier, .conditional condition positive negative :: others⟩
    | _ => none
  | _ =>
    match branch.operands with
    | right :: left :: others => some ⟨branch.earlier, .binary left operator right :: others⟩
    | _ => none

end Branch

namespace Sign

/-- Leaves the innermost branch, whose value is the next operand of the one around it. -/
def leave? : List Branch → Option (List Branch)
  | inner :: branch :: branches => inner.value?.map fun e => branch.push e :: branches
  | _ => none

/-- Applies an operator in the innermost branch. -/
def operate? (operator : Token) : List Branch → Option (List Branch)
  | branch :: branches => (branch.combine? operator).map fun applied => applied :: branches
  | [] => none

/-- Calculates one word. -/
def calculate? : List Branch → Sign → Option (List Branch)
  | branch :: branches, .arrow => branch.value?.map fun e => ⟨some e, []⟩ :: branches
  | branch :: branches, .atom text =>
    match (Token.ofSpelling text).mark? with
    | none => some (branch.push (.literal (.ofText text)) :: branches)
    | some .questionMark => some (.opened :: branch :: branches)
    | some .colon => (leave? (branch :: branches)).map fun left => .opened :: left
    | some .semicolon => (leave? (branch :: branches)).bind (operate? (.ofSpelling text))
    | some _ => operate? (.ofSpelling text) (branch :: branches)
  | _, _ => none

/-- Calculates words one after the other. -/
def calculateAll? (branches : List Branch) (words : List Sign) : Option (List Branch) :=
  words.foldlM calculate? branches

/-- A word is calculated in front of what follows it. -/
theorem calculateAll?_cons (branches : List Branch) (word : Sign) (later : List Sign) :
    calculateAll? branches (word :: later) =
      (calculate? branches word).bind fun next => calculateAll? next later :=
  List.foldlM_cons

/-- A row of words is calculated in front of what follows it. -/
theorem calculateAll?_append (branches : List Branch) (words later : List Sign) :
    calculateAll? branches (words ++ later) =
      (calculateAll? branches words).bind fun next => calculateAll? next later :=
  List.foldlM_append

variable (branch : Branch) (branches : List Branch)

/-- The text of a literal is an operand. -/
theorem calculate?_text {v : Literal} (legible : v.Legible) :
    calculate? (branch :: branches) (.atom v.text) =
      some (branch.push (.literal v) :: branches) := by
  rw [calculate?, legible.mark?_ofSpelling_text, legible.ofText_text]

/-- A bang takes one operand. -/
theorem calculate?_bang {t : Token} (legible : t.Legible) (bang : t.mark? = some .bang)
    (right : Expr) :
    calculate? (branch.push right :: branches) (.atom t.lexeme) =
      some (branch.push (.unary t.withoutLine right) :: branches) := by
  have known : t.withoutLine.mark? = some .bang := bang
  rw [calculate?, legible.ofSpelling_lexeme, known]
  simp [operate?, Branch.combine?, known, Branch.push]

/-- The operator of a chain takes two operands. -/
theorem calculate?_chain {t : Token} (legible : t.Legible) (joins : t.chain?.isSome = true)
    (left right : Expr) :
    calculate? ((branch.push left).push right :: branches) (.atom t.lexeme) =
      some (branch.push (.binary left t.withoutLine right) :: branches) := by
  rcases t with ⟨symbol, lexeme, line⟩
  rcases legible with ⟨mark, rfl, rfl, _⟩
  cases mark <;> first | contradiction | rfl

/-- An arrow follows the value of what stands in front of it in its branch. -/
theorem calculate?_arrow (e : Expr) :
    calculate? (Branch.opened.take e :: branches) .arrow = some (⟨some e, []⟩ :: branches) := by
  rw [calculate?, Branch.value?_take_opened]
  rfl

theorem calculate?_questionMark :
    calculate? (branch :: branches) (.atom "?") = some (.opened :: branch :: branches) := rfl

/-- A branch that has taken one tree only is left with it. -/
theorem leave?_take (e : Expr) :
    leave? (Branch.opened.take e :: branch :: branches) = some (branch.push e :: branches) := by
  rw [leave?, Branch.value?_take_opened]
  rfl

/-- A colon ends a branch and opens the next one. -/
theorem calculate?_colon (e : Expr) :
    calculate? (Branch.opened.take e :: branch :: branches) (.atom ":") =
      some (.opened :: branch.push e :: branches) :=
  congrArg (Option.map _) (leave?_take branch branches e)

/-- A semicolon ends the last branch of a conditional. -/
theorem calculate?_semicolon (condition positive negative : Expr) :
    calculate? (Branch.opened.take negative :: (branch.push condition).push positive :: branches)
        (.atom ";") =
      some (branch.push (.conditional condition positive negative) :: branches) :=
  congrArg (Option.bind · _) (leave?_take _ branches negative)

end Sign

namespace Expr

/-- A calculator takes a tree as one operand, or a sequence as its parts, if nothing stands in
front of it in its branch. -/
theorem Calculable.calculateAll?_words {e : Expr} (calculable : e.Calculable) {branch : Branch}
    (first : e.isSequence = true → branch = .opened) (branches : List Branch) :
    Sign.calculateAll? (branch :: branches) e.words =
      some (branch.take e.withoutGroupings.withoutLines :: branches) := by
  induction calculable generalizing branch branches with
  | literal value =>
    rw [words, Sign.calculateAll?_cons, Sign.calculate?_text branch branches value]
    rfl
  | grouping _ single ih => exact ih (by simp [single]) branches
  | unary operator bang inner single ih =>
    rw [words, Sign.calculateAll?_append, ih (by simp [single]), Option.bind_some,
      Branch.take_of_single (inner.isSequence_eq.trans single), Sign.calculateAll?_cons,
      Sign.calculate?_bang branch branches operator bang]
    rfl
  | binary operator joins left singleLeft right singleRight ihLeft ihRight =>
    rw [words, Sign.calculateAll?_append, ihLeft (by simp [singleLeft]), Option.bind_some,
      Branch.take_of_single (left.isSequence_eq.trans singleLeft), Sign.calculateAll?_append,
      ihRight (by simp [singleRight]), Option.bind_some,
      Branch.take_of_single (right.isSequence_eq.trans singleRight), Sign.calculateAll?_cons,
      Sign.calculate?_chain branch branches operator joins]
    rfl
  | conditional condition single _ _ ihCondition ihPositive ihNegative =>
    rw [words, Sign.calculateAll?_append, ihCondition (by simp [single]), Option.bind_some,
      Branch.take_of_single (condition.isSequence_eq.trans single), Sign.calculateAll?_cons,
      Sign.calculate?_questionMark, Option.bind_some, Sign.calculateAll?_append,
      ihPositive fun _ => rfl, Option.bind_some, Sign.calculateAll?_cons, Sign.calculate?_colon,
      Option.bind_some, Sign.calculateAll?_append, ihNegative fun _ => rfl, Option.bind_some,
      Sign.calculateAll?_cons, Sign.calculate?_semicolon]
    rfl
  | sequence _ right single ihLeft ihRight =>
    -- The left part is all that stands in front of the arrow, so it is the value there.
    rw [first rfl, words, Sign.calculateAll?_append, ihLeft fun _ => rfl, Option.bind_some,
      Sign.calculateAll?_cons, Sign.calculate?_arrow, Option.bind_some, ihRight (by simp [single]),
      Branch.take_of_single (right.isSequence_eq.trans single)]
    rfl

/-- The tree without groupings that a form is the reverse polish form of. -/
def ofReversePolish? (form : String) : Option Expr :=
  match Sign.calculateAll? [.opened] (Sign.divide (' ' :: form.toList)) with
  | some [branch] => branch.value?
  | _ => none

/-- A tree is read back from its form, without its groupings and lines. -/
theorem Calculable.ofReversePolish?_reversePolish {e : Expr} (calculable : e.Calculable) :
    ofReversePolish? e.reversePolish = some e.withoutGroupings.withoutLines := by
  have row : ' ' :: e.reversePolish.toList = e.words.flatMap Sign.shown := by
    rw [reversePolish, String.toList_ofList, e.cons_reversePolishOnto, List.append_nil]
  rw [ofReversePolish?, row, Sign.divide_flatMap_shown calculable.plain_words,
    calculable.calculateAll?_words fun _ => rfl]
  exact Branch.value?_take_opened _

/-- Two trees that can be calculated have the same form exactly if they are the same up to their
groupings and the lines of their operators. -/
theorem Calculable.reversePolish_eq_iff {d e : Expr} (calculable : d.Calculable)
    (calculable' : e.Calculable) :
    d.reversePolish = e.reversePolish ↔
      d.withoutGroupings.withoutLines = e.withoutGroupings.withoutLines := by
  constructor
  · intro same
    rw [← Option.some_inj, ← calculable.ofReversePolish?_reversePolish, same,
      calculable'.ofReversePolish?_reversePolish]
  · intro same
    rw [reversePolish, ← reversePolishOnto_withoutGroupings_withoutLines, same,
      reversePolishOnto_withoutGroupings_withoutLines]
    rfl

end Expr

/-- A tree that is parsed from a source can be calculated if nothing in it is told wrongly. -/
theorem calculable_of_parse_scan {source : String} {e : Expr}
    (parsed : parse (scan source).tokens = .ok e) (clear : e.Unambiguous) : e.Calculable := by
  rcases Grammar.complete_eq_ok_iff.1 (parse_eq_ok.1 parsed) with ⟨canonical, _, _⟩
  exact canonical.calculable (legible_of_parse_scan parsed clear.noString) clear.noMisread

/-- The reverse polish form of a parsed tree determines the tree, but for its groupings.  If two
sources are parsed to trees without strings, without a minus that has one operand and without
sequences in parentheses, these have the same form exactly if they are the same up to their
groupings and the lines of their operators. -/
theorem reversePolish_eq_iff_of_parse {a b : String} {d e : Expr}
    (parsed : parse (scan a).tokens = .ok d) (parsed' : parse (scan b).tokens = .ok e)
    (clear : d.Unambiguous) (clear' : e.Unambiguous) :
    d.reversePolish = e.reversePolish ↔
      d.withoutGroupings.withoutLines = e.withoutGroupings.withoutLines :=
  (calculable_of_parse_scan parsed clear).reversePolish_eq_iff
    (calculable_of_parse_scan parsed' clear')

/-- An operand may be in parentheses, and the operator on another line. -/
theorem reversePolish_eq_iff_sum :
    let one : Expr := .literal (.number (.ofNumeral ['1']))
    let two : Expr := .literal (.number (.ofNumeral ['2']))
    let sum (left : Expr) (line : Nat) : Expr := .binary left ⟨.mark .plus, "+", line⟩ two
    parse (scan "1+2").tokens = .ok (sum one 1) ∧
      parse (scan "(1)\n+2").tokens = .ok (sum (.grouping one) 2) ∧
      (sum one 1).Unambiguous ∧ (sum (.grouping one) 2).Unambiguous ∧
      ((sum one 1).reversePolish = (sum (.grouping one) 2).reversePolish ↔
        (sum one 1).withoutGroupings.withoutLines =
          (sum (.grouping one) 2).withoutGroupings.withoutLines) := by
  intro one two sum
  have canonical {left : Expr} (line : Nat) (shaped : Grammar.Shaped .primary left) :
      (sum left line).Canonical := by
    have first : Grammar.Shaped (.chain .addition) left := .item (.item (.primary shaped))
    have joined : Grammar.Shaped (.chain .addition) (sum left line) :=
      .link rfl first (Grammar.shaped_literal rfl _)
    exact .last (.condition (.item (.item joined)))
  have parsed : parse (scan "1+2").tokens = .ok (sum one 1) := by
    have tokens : (scan "1+2").tokens =
        [⟨.number (.ofNumeral ['1']), "1", 1⟩, ⟨.mark .plus, "+", 1⟩,
          ⟨.number (.ofNumeral ['2']), "2", 1⟩, .endOfInput 1] := by
      decide +kernel
    refine parse_eq_ok.2 (Grammar.complete_eq_ok_iff.2 ⟨canonical 1 (.literal rfl), by decide, ?_⟩)
    rw [tokens]
    exact .cons rfl (.cons rfl (.cons rfl .nil))
  have parsed' : parse (scan "(1)\n+2").tokens = .ok (sum (.grouping one) 2) := by
    have tokens : (scan "(1)\n+2").tokens =
        [⟨.mark .leftParen, "(", 1⟩, ⟨.number (.ofNumeral ['1']), "1", 1⟩,
          ⟨.mark .rightParen, ")", 1⟩, ⟨.mark .plus, "+", 2⟩,
          ⟨.number (.ofNumeral ['2']), "2", 2⟩, .endOfInput 2] := by
      decide +kernel
    refine parse_eq_ok.2 (Grammar.complete_eq_ok_iff.2
      ⟨canonical 2 (.grouping (Grammar.shaped_literal rfl _)), by decide, ?_⟩)
    rw [tokens]
    exact .cons rfl (.cons rfl (.cons rfl (.cons rfl (.cons rfl .nil))))
  have clear : (sum one 1).Unambiguous := ⟨rfl, rfl⟩
  have clear' : (sum (.grouping one) 2).Unambiguous := ⟨rfl, rfl⟩
  exact ⟨parsed, parsed', clear, clear', reversePolish_eq_iff_of_parse parsed parsed' clear clear'⟩

/-- A minus with one operand can be taken for one with two, as in `-(x - y)` and `x - -y`. -/
example (minus : Token) (x y : Expr) :
    (Expr.unary minus (.grouping (.binary x minus y))).reversePolish =
      (Expr.binary x minus (.unary minus y)).reversePolish :=
  rfl

end LoxExpr
