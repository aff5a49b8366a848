import LoxExpr.Expr.Parenthesized
import LoxExpr.Proofs.Expr.Legible

/-!
# Reading the parenthesized form

The parenthesized form of a legible tree can be read back.  It is a row of signs, each of which
begins with a blank or is a closing parenthesis, so it can be divided into them.  A reader
goes through the signs and keeps a stack of frames with the operands it has seen.  The parts
of a sequence stand without parentheses, and the reader joins them from the left.  It is right
in doing so, since the last part of a sequence is no sequence.

Main results:

- Theorem `cons_parenthesizedOnto`: a form is the row of its signs.
- Theorem `divide_flatMap_shown`: a row of plain signs is divided into these signs.
- Theorem `Legible.run?_signs`: the reader takes a legible tree as one operand.
- Theorem `Legible.ofParenthesized?_parenthesized`: a legible tree is read back from its form,
  without its lines.
- Theorem `parenthesized_eq_iff_of_parse`: the form of a parsed tree determines the tree up
  to the lines of its operators.
-/

namespace LoxExpr

/-! ## Forms without lines -/

namespace Expr

/-- The form of a tree does not show the lines of its operators. -/
theorem parenthesizedOnto_withoutLines (e : Expr) (rest : List Char) :
    e.withoutLines.parenthesizedOnto rest = e.parenthesizedOnto rest := by
  induction e generalizing rest with
  | literal => rfl
  | grouping inner ih => simp only [withoutLines, parenthesizedOnto, ih]
  | unary operator right ih =>
    simp only [withoutLines, parenthesizedOnto, Token.withoutLine, ih]
  | binary left operator right ihLeft ihRight =>
    simp only [withoutLines, parenthesizedOnto, Token.withoutLine, ihLeft, ihRight]
  | conditional condition positive negative ihCondition ihPositive ihNegative =>
    simp only [withoutLines, parenthesizedOnto, ihCondition, ihPositive, ihNegative]
  | sequence left right ihLeft ihRight =>
    simp only [withoutLines, parenthesizedOnto, ihLeft, ihRight]

end Expr

/-! ## Signs -/

/-- The signs that a form is made of. -/
inductive Sign
  | opens (head : String)
  | atom (text : String)
  | arrow
  | closes

namespace Sign

/-- How a sign is written.  All but the closing parenthesis have a blank in front. -/
def shown : Sign → List Char
  | .opens head => ' ' :: '(' :: head.toList
  | .atom text => ' ' :: text.toList
  | .arrow => " ->".toList
  | .closes => [')']

/-- The characters that stand inside a sign, behind its first one. -/
def isInner (c : Char) : Bool :=
  c != ' ' && c != ')'

/-- A sign that can be told from what stands around it. -/
def Plain : Sign → Prop
  | .opens head => head.toList.all isInner = true
  | .atom text => text.toList.all isInner = true ∧ text.toList.head? ≠ some '(' ∧ text ≠ "->"
  | .arrow | .closes => True

instance (sign : Sign) : Decidable sign.Plain :=
  match sign with
  | .opens head => inferInstanceAs (Decidable (head.toList.all isInner = true))
  | .atom text =>
    inferInstanceAs (Decidable
      (text.toList.all isInner = true ∧ text.toList.head? ≠ some '(' ∧ text ≠ "->"))
  | .arrow | .closes => inferInstanceAs (Decidable True)

/-- A plain sign begins where no other sign goes on, and goes on behind that. -/
theorem Plain.exists_shown {sign : Sign} (plain : sign.Plain) :
    ∃ lead body, sign.shown = lead :: body ∧ isInner lead = false ∧
      ∀ c ∈ body, isInner c = true := by
  cases sign with
  | opens head =>
    refine ⟨' ', '(' :: head.toList, rfl, rfl, ?_⟩
    intro c member
    rcases List.mem_cons.1 member with rfl | inside
    · rfl
    · exact List.all_eq_true.1 plain c inside
  | atom text => exact ⟨' ', text.toList, rfl, rfl, List.all_eq_true.1 plain.1⟩
  | arrow => exact ⟨' ', ['-', '>'], rfl, rfl, List.all_eq_true.1 rfl⟩
  | closes => exact ⟨')', [], rfl, rfl, fun _ member => absurd member List.not_mem_nil⟩

/-- The sign that is written in some way. -/
def ofShown : List Char → Sign
  | ' ' :: '(' :: head => .opens (String.ofList head)
  | [' ', '-', '>'] => .arrow
  | ' ' :: text => .atom (String.ofList text)
  | _ => .closes

/-- A plain sign is told by how it is written. -/
theorem Plain.ofShown_shown {sign : Sign} (plain : sign.Plain) : ofShown sign.shown = sign := by
  cases sign with
  | opens head => simp [shown, ofShown]
  | arrow | closes => rfl
  | atom text =>
    rcases plain with ⟨_, notOpening, notArrow⟩
    rw [shown]
    unfold ofShown
    split
    next head opening =>
      rw [List.tail_eq_of_cons_eq opening] at notOpening
      exact absurd rfl notOpening
    next arrow =>
      have same : text.toList = "->".toList := List.tail_eq_of_cons_eq arrow
      exact absurd (String.toList_inj.1 same) notArrow
    next text' _ _ same =>
      rw [← List.tail_eq_of_cons_eq same, String.ofList_toList]
    next other => exact absurd rfl (other text.toList)

/-- In front of a plain sign, or of nothing, no sign goes on. -/
theorem stops_flatMap_shown {signs : List Sign} (plain : ∀ s ∈ signs, s.Plain) :
    ∀ c ∈ (signs.flatMap shown).head?, isInner c = false := by
  cases signs with
  | nil => exact fun _ first => absurd first nofun
  | cons sign later =>
    rcases (plain sign List.mem_cons_self).exists_shown with ⟨lead, body, written, stops, _⟩
    intro c first
    rw [List.flatMap_cons, written] at first
    rwa [← Option.some.inj first]

/-- Divides a text into signs. -/
def divide : List Char → List Sign
  | [] => []
  | lead :: rest =>
    ofShown (lead :: rest.takeWhile isInner) :: divide (rest.dropWhile isInner)
termination_by text => text.length
decreasing_by exact Nat.lt_succ_of_le (List.dropWhile_suffix _).length_le

/-- A row of plain signs is divided into these signs. -/
theorem divide_flatMap_shown {signs : List Sign} (plain : ∀ s ∈ signs, s.Plain) :
    divide (signs.flatMap shown) = signs := by
  induction signs with
  | nil => simp [divide]
  | cons sign later ih =>
    have plainSign := plain sign List.mem_cons_self
    have plainLater := fun s member => plain s (List.mem_cons_of_mem _ member)
    rcases plainSign.exists_shown with ⟨lead, body, written, _, inner⟩
    have run : Lexical.Run isInner body (later.flatMap shown) :=
      ⟨inner, stops_flatMap_shown plainLater⟩
    rw [List.flatMap_cons, written, List.cons_append, divide, run.takeWhile_append,
      run.dropWhile_append, ih plainLater, ← written, plainSign.ofShown_shown]

end Sign

namespace Expr

/-- The signs of the form of a tree. -/
def signs : Expr → List Sign
  | .literal value => [.atom value.text]
  | .grouping inner => .opens "group" :: (inner.signs ++ [.closes])
  | .unary operator right => .opens operator.lexeme :: (right.signs ++ [.closes])
  | .binary left operator right =>
    .opens operator.lexeme :: (left.signs ++ (right.signs ++ [.closes]))
  | .conditional condition positive negative =>
    .opens "if" :: (condition.signs ++ (positive.signs ++ (negative.signs ++ [.closes])))
  | .sequence left right => left.signs ++ .arrow :: right.signs

/-- A form, behind a blank, is the row of its signs. -/
theorem cons_parenthesizedOnto (e : Expr) (rest : List Char) :
    ' ' :: e.parenthesizedOnto rest = e.signs.flatMap Sign.shown ++ rest := by
  induction e generalizing rest with
  | literal value => simp [parenthesizedOnto, signs, Sign.shown]
  | grouping inner ih => simp [parenthesizedOnto, opening, signs, Sign.shown, ih]
  | unary operator right ih => simp [parenthesizedOnto, opening, signs, Sign.shown, ih]
  | binary left operator right ihLeft ihRight =>
    simp [parenthesizedOnto, opening, signs, Sign.shown, ihLeft, ihRight]
  | conditional condition positive negative ihCondition ihPositive ihNegative =>
    simp [parenthesizedOnto, opening, signs, Sign.shown, ihCondition, ihPositive, ihNegative]
  | sequence left right ihLeft ihRight =>
    simp [parenthesizedOnto, signs, Sign.shown, ihLeft, ihRight]

end Expr

namespace Literal

/-- The text of a finite number is a plain sign. -/
theorem plain_plainText {x : Binary64} (unsigned : x.Unsigned)
    (finite : x.magnitude < Binary64.infiniteMagnitude) : (Sign.atom x.plainText).Plain := by
  rcases unsigned.plainText_finite finite with ⟨⟨first, rest, text, digit⟩, inside⟩
  refine ⟨List.all_eq_true.2 fun c member => ?_, ?_, ?_⟩
  · rcases inside c member with isDigit | rfl
    · have notBlank : c ≠ ' ' := by rintro rfl; contradiction
      have notClosing : c ≠ ')' := by rintro rfl; contradiction
      simp [Sign.isInner, notBlank, notClosing]
    · rfl
  · rintro opening
    rw [text, List.head?_cons, Option.some.injEq] at opening
    subst opening
    contradiction
  · intro arrow
    rw [arrow] at text
    cases text
    contradiction

/-- The text of a legible literal is a plain sign. -/
theorem Legible.plain {v : Literal} (legible : v.Legible) : (Sign.atom v.text).Plain := by
  cases v with
  | number x =>
    have unsigned : x.Unsigned := legible
    rcases unsigned.finite_or_infinite with finite | infinite
    · exact plain_plainText unsigned finite
    · rw [text, unsigned.plainText_infinite infinite]
      decide
  | boolean value => cases value <;> decide
  | nil => decide
  | string | keyword => exact absurd legible id

end Literal

namespace Token

/-- The text of a legible operator is that of no form with a word in front. -/
theorem Legible.lexeme_ne_group {t : Token} (legible : t.Legible) : t.lexeme ≠ "group" := by
  rcases legible with ⟨mark, _, lexeme, _⟩
  rw [lexeme]
  cases mark <;> decide

/-- The text of a legible operator opens a plain sign. -/
theorem Legible.plain {t : Token} (legible : t.Legible) : (Sign.opens t.lexeme).Plain := by
  rcases legible with ⟨mark, _, lexeme, notClosing⟩
  rw [lexeme]
  cases mark <;> first | contradiction | decide

end Token

/-- All signs of a legible tree are plain. -/
theorem Expr.Legible.plain_signs {e : Expr} (legible : e.Legible) : ∀ s ∈ e.signs, s.Plain := by
  have closes : Sign.closes.Plain := trivial
  have arrow : Sign.arrow.Plain := trivial
  induction legible with
  | literal value => simpa [signs] using value.plain
  | grouping _ ih =>
    have group : (Sign.opens "group").Plain := by decide
    simpa [signs, or_imp, forall_and, group, closes] using ih
  | unary operator _ ih => simpa [signs, or_imp, forall_and, operator.plain, closes] using ih
  | binary _ operator _ ihLeft ihRight =>
    simpa [signs, or_imp, forall_and, operator.plain, closes] using ⟨ihLeft, ihRight⟩
  | conditional _ _ _ ihCondition ihPositive ihNegative =>
    have ifSign : (Sign.opens "if").Plain := by decide
    simpa [signs, or_imp, forall_and, ifSign, closes] using ⟨ihCondition, ihPositive, ihNegative⟩
  | sequence _ _ _ ihLeft ihRight =>
    simpa [signs, or_imp, forall_and, arrow] using ⟨ihLeft, ihRight⟩

/-! ## The reader -/

/-- What a reader knows about a form that it is inside of: how it was opened, the operands,
the latest first, and whether an arrow goes on with the latest one. -/
structure Frame where
  head : String
  operands : List Expr
  pending : Bool

namespace Frame

/-- A form that has just been opened. -/
def opened (head : String) : Frame :=
  ⟨head, [], false⟩

/-- Takes a tree as the next operand, or as the next part of a sequence. -/
def take (frame : Frame) (e : Expr) : Frame :=
  match frame.pending, frame.operands with
  | true, left :: earlier =>
    { frame with operands := .sequence left e :: earlier, pending := false }
  | _, operands => { frame with operands := e :: operands, pending := false }

/-- Without an arrow a tree is the next operand. -/
theorem take_of_not_pending {frame : Frame} (done : frame.pending = false) (e : Expr) :
    frame.take e = ⟨frame.head, e :: frame.operands, false⟩ := by
  simp [take, done]

/-- The tree of a form that is closed. -/
def close? (frame : Frame) : Option Expr :=
  match frame.operands with
  | [inner] =>
    some (if frame.head = "group" then .grouping inner else .unary (.ofSpelling frame.head) inner)
  | [right, left] => some (.binary left (.ofSpelling frame.head) right)
  | [negative, positive, condition] => some (.conditional condition positive negative)
  | _ => none

end Frame

namespace Sign

/-- Reads one sign. -/
def step? : List Frame → Sign → Option (List Frame)
  | frames, .opens head => some (.opened head :: frames)
  | frame :: frames, .atom text => some (frame.take (.literal (.ofText text)) :: frames)
  | frame :: frames, .arrow => some ({ frame with pending := true } :: frames)
  | inner :: frame :: frames, .closes => inner.close?.map fun e => frame.take e :: frames
  | _, _ => none

/-- Reads signs one after the other. -/
def run? (frames : List Frame) (signs : List Sign) : Option (List Frame) :=
  signs.foldlM step? frames

/-- A sign is read in front of what follows it. -/
theorem run?_cons (frames : List Frame) (sign : Sign) (later : List Sign) :
    run? frames (sign :: later) = (step? frames sign).bind fun next => run? next later :=
  List.foldlM_cons

/-- A row of signs is read in front of what follows it. -/
theorem run?_append (frames : List Frame) (signs later : List Sign) :
    run? frames (signs ++ later) = (run? frames signs).bind fun next => run? next later :=
  List.foldlM_append

end Sign

/-- The tree that a form is the form of. -/
def Expr.ofParenthesized? (form : String) : Option Expr :=
  match Sign.run? [.opened ""] (Sign.divide (' ' :: form.toList)) with
  | some [⟨_, [e], _⟩] => some e
  | _ => none

/-- A reader takes a legible tree as one operand.  Behind an arrow the tree must not be a
sequence, since the parts of a sequence are joined from the left. -/
theorem Expr.Legible.run?_signs {e : Expr} (legible : e.Legible) {frame : Frame}
    (apart : e.isSequence = true → frame.pending = false) (frames : List Frame) :
    Sign.run? (frame :: frames) e.signs = some (frame.take e.withoutLines :: frames) := by
  induction legible generalizing frame frames with
  | literal value =>
    rw [signs, Sign.run?_cons, Sign.step?, value.ofText_text]
    rfl
  | grouping _ ih =>
    rw [signs, Sign.run?_cons, Sign.step?, Option.bind_some, Sign.run?_append, ih fun _ => rfl]
    rfl
  | unary operator _ ih =>
    rw [signs, Sign.run?_cons, Sign.step?, Option.bind_some, Sign.run?_append, ih fun _ => rfl,
      Option.bind_some, Sign.run?_cons, Frame.take_of_not_pending rfl]
    simp [Sign.step?, Frame.close?, Frame.opened, operator.lexeme_ne_group,
      operator.ofSpelling_lexeme, withoutLines, Sign.run?]
  | binary _ operator _ ihLeft ihRight =>
    rw [signs, Sign.run?_cons, Sign.step?, Option.bind_some, Sign.run?_append,
      ihLeft fun _ => rfl, Option.bind_some, Sign.run?_append, ihRight fun _ => rfl,
      Option.bind_some, Sign.run?_cons]
    simp [Sign.step?, Frame.take_of_not_pending, Frame.close?, Frame.opened,
      operator.ofSpelling_lexeme, withoutLines, Sign.run?]
  | conditional _ _ _ ihCondition ihPositive ihNegative =>
    rw [signs, Sign.run?_cons, Sign.step?, Option.bind_some, Sign.run?_append,
      ihCondition fun _ => rfl, Option.bind_some, Sign.run?_append, ihPositive fun _ => rfl,
      Option.bind_some, Sign.run?_append, ihNegative fun _ => rfl]
    rfl
  | sequence _ _ single ihLeft ihRight =>
    -- The left part is taken as an operand, whatever it is.  Behind the arrow the right part,
    -- which is no sequence, is joined to it.
    rw [signs, Sign.run?_append, ihLeft fun _ => apart rfl, Option.bind_some, Sign.run?_cons,
      Sign.step?, Option.bind_some, ihRight (by simp [single]),
      Frame.take_of_not_pending (apart rfl), Frame.take_of_not_pending (apart rfl)]
    rfl

/-- A legible tree is read back from its form, without its lines. -/
theorem Expr.Legible.ofParenthesized?_parenthesized {e : Expr} (legible : e.Legible) :
    ofParenthesized? e.parenthesized = some e.withoutLines := by
  have row : ' ' :: e.parenthesized.toList = e.signs.flatMap Sign.shown := by
    rw [parenthesized, String.toList_ofList, e.cons_parenthesizedOnto, List.append_nil]
  rw [ofParenthesized?, row, Sign.divide_flatMap_shown legible.plain_signs,
    legible.run?_signs fun _ => rfl]
  rfl

/-- Two legible trees have the same form exactly if they are the same up to the lines of their
operators. -/
theorem Expr.Legible.parenthesized_eq_iff {d e : Expr} (legible : d.Legible)
    (legible' : e.Legible) :
    d.parenthesized = e.parenthesized ↔ d.withoutLines = e.withoutLines := by
  constructor
  · intro same
    rw [← Option.some_inj, ← legible.ofParenthesized?_parenthesized, same,
      legible'.ofParenthesized?_parenthesized]
  · intro same
    rw [parenthesized, ← parenthesizedOnto_withoutLines, same, parenthesizedOnto_withoutLines]
    rfl

/-- The parenthesized form of a parsed tree determines the tree.  If two sources are parsed to
trees without strings, these have the same form exactly if they are the same up to the lines
of their operators. -/
theorem parenthesized_eq_iff_of_parse {a b : String} {d e : Expr}
    (parsed : parse (scan a).tokens = .ok d) (parsed' : parse (scan b).tokens = .ok e)
    (plain : d.hasString = false) (plain' : e.hasString = false) :
    d.parenthesized = e.parenthesized ↔ d.withoutLines = e.withoutLines :=
  (legible_of_parse_scan parsed plain).parenthesized_eq_iff (legible_of_parse_scan parsed' plain')

/-- The operator may be on another line. -/
theorem parenthesized_eq_iff_negation :
    let negation (line : Nat) : Expr :=
      .unary ⟨.mark .minus, "-", line⟩ (.literal (.number (.ofNumeral ['1'])))
    parse (scan "-1").tokens = .ok (negation 1) ∧ parse (scan "\n-1").tokens = .ok (negation 2) ∧
      ((negation 1).parenthesized = (negation 2).parenthesized ↔
        (negation 1).withoutLines = (negation 2).withoutLines) := by
  intro negation
  have parsed (line : Nat) (source : String)
      (tokens : (scan source).tokens =
        [⟨.mark .minus, "-", line⟩, ⟨.number (.ofNumeral ['1']), "1", line⟩, .endOfInput line]) :
      parse (scan source).tokens = .ok (negation line) := by
    have canonical : (negation line).Canonical :=
      .last (.condition (.item (.item (.item (.item (.unary rfl (.primary (.literal rfl))))))))
    have nest : 1 ≤ Grammar.maxDepth := by decide
    have spelled : (negation line).SpelledBy (Grammar.beforeEnd (scan source).tokens) := by
      rw [tokens]
      exact .cons rfl (.cons rfl .nil)
    exact parse_eq_ok.2 (Grammar.complete_eq_ok_iff.2 ⟨canonical, nest, spelled⟩)
  have first := parsed 1 "-1" (by decide +kernel)
  have second := parsed 2 "\n-1" (by decide +kernel)
  exact ⟨first, second, parenthesized_eq_iff_of_parse first second rfl rfl⟩

end LoxExpr
