import LoxExpr.Proofs.Lexical.Segmentation

/-!
# Lookahead

How much a lexeme depends on what follows it.  One character behind it decides whether it
ends there, and behind the digits of a numeral a second one does.  So the text behind a
lexeme can be exchanged for another one that looks alike, or for one that begins with a
blank, and the segments in front of a blank stay what they are.

Main results:

- Theorems `Lexeme.replace_rest` and `Lexeme.exchange`: a lexeme stays one in front of a text
  that does not continue it.
- Theorem `Segmentation.isUnclosed_eq_false`: only the last segment can be unclosed.
- Theorem `Segmentation.append_blank`: the segments in front of a blank do not depend on what
  stands behind it.
-/

namespace LoxExpr.Lexical

/-! ## Comments -/

/-- A comment ends at its last marker, whatever follows it. -/
theorem blockCommentTail?_exchange {outer : Nat} {cs tail rest : List Char}
    (h : blockCommentTail? outer cs = some (tail, rest)) :
    ∀ rest', blockCommentTail? outer (tail ++ rest') = some (tail, rest') := by
  fun_induction blockCommentTail? outer cs generalizing tail rest with
  | case1 => simp at h
  | case2 cs =>
    obtain ⟨rfl, rfl⟩ : ['*', '/'] = tail ∧ cs = rest := by simpa using h
    exact fun rest' => rfl
  | case3 cs n ih =>
    rcases Option.map_eq_some_iff.1 h with ⟨⟨inner, after⟩, closed, same⟩
    obtain ⟨rfl, rfl⟩ : '*' :: '/' :: inner = tail ∧ after = rest := by simpa using same
    intro rest'
    simp [blockCommentTail?, ih closed]
  | case4 outer cs ih =>
    rcases Option.map_eq_some_iff.1 h with ⟨⟨inner, after⟩, closed, same⟩
    obtain ⟨rfl, rfl⟩ : '/' :: '*' :: inner = tail ∧ after = rest := by simpa using same
    intro rest'
    simp [blockCommentTail?, ih closed]
  | case5 outer c cs notClosing notOpening ih =>
    rcases Option.map_eq_some_iff.1 h with ⟨⟨inner, after⟩, closed, same⟩
    obtain ⟨rfl, rfl⟩ : c :: inner = tail ∧ after = rest := by simpa using same
    intro rest'
    cases inner with
    | nil =>
      have unclosed : blockCommentTail? outer [] = some ([], []) := ih closed []
      simp [blockCommentTail?] at unclosed
    | cons d inner =>
      -- The character behind `c` is the same as before, so `c` begins no marker.
      obtain rfl : d :: inner ++ after = cs := blockCommentTail?_append closed
      have notClosing' (later) (star : c = '*') (same : d :: inner ++ rest' = '/' :: later) :
          False :=
        notClosing (inner ++ after) star (congrArg (· :: _) (List.cons.inj same).1)
      have notOpening' (later) (slash : c = '/') (same : d :: inner ++ rest' = '*' :: later) :
          False :=
        notOpening (inner ++ after) slash (congrArg (· :: _) (List.cons.inj same).1)
      rw [List.cons_append, blockCommentTail?.eq_5 outer c _ notClosing' notOpening', ih closed]
      rfl

/-- A block comment is one in front of any text. -/
theorem lexeme_blockComment_exchange {text rest : List Char}
    (lexeme : Lexeme .blockComment text rest) (rest' : List Char) :
    Lexeme .blockComment text rest' := by
  rcases lexeme.cut_eq with ⟨c, tail, rfl, taken⟩
  cases lexeme with
  | blockComment read opens =>
    have begins : (commentPieces (c :: (tail ++ rest))).head? = some .opening := by
      rw [← List.cons_append, read, List.head?_append, opens]
      rfl
    rcases head?_commentPieces.1 begins with ⟨inner, same⟩
    obtain ⟨rfl, behind⟩ := List.cons.inj same
    rw [behind, cut_slash] at taken
    cases found : blockCommentTail? 0 inner with
    | none => simp [cutSlash, found] at taken
    | some divided =>
      rcases divided with ⟨within, after⟩
      obtain ⟨rfl, rfl⟩ : '*' :: within = tail ∧ after = rest := by
        simpa [cutSlash, found] using taken
      have other := lexeme_cutSlash ('*' :: (within ++ rest'))
      simpa [cutSlash, blockCommentTail?_exchange found rest'] using other

/-! ## What may follow a lexeme -/

/-- Whether a fault is something that is never closed. -/
def Role.isUnclosed : Role → Bool
  | .fault .unterminatedString | .fault .unterminatedBlockComment => true
  | _ => false

/-- Nothing follows what is never closed. -/
theorem Lexeme.rest_eq_nil {role : Role} {text rest : List Char} (lexeme : Lexeme role text rest)
    (unclosed : role.isUnclosed = true) : rest = [] := by
  cases lexeme with
  | unterminatedString | unterminatedBlockComment => rfl
  | _ => contradiction

/-- Whether a text behind a lexeme can be exchanged for another one: it begins with the same
character or with a blank, which is a line break if it has to end a line comment, and it
brings no decimals. -/
structure Exchangeable (role : Role) (rest rest' : List Char) : Prop where
  first : ∀ c ∈ rest'.head?, c ∈ rest.head? ∨
    isBlank c = true ∧ (role = .lineComment → c = '\n')
  decimals : ∀ d later, rest' = '.' :: d :: later → d.isDigit = true →
    ∃ later', rest = '.' :: d :: later'

/-- Blanks are in no class that no blank is in. -/
theorem eq_false_of_isBlank {accepts : Char → Bool} {c : Char} (blank : isBlank c = true)
    (apart : [' ', '\r', '\t', '\n'].all (fun d => !accepts d) = true) : accepts c = false := by
  have rejected := List.all_eq_true.1 apart c (isBlank_iff.1 blank)
  simpa using rejected

/-- A run ends in front of a text that does not go on with it. -/
theorem Run.exchange {accepts : Char → Bool} {text rest rest' : List Char}
    (run : Run accepts text rest)
    (first : ∀ c ∈ rest'.head?, c ∈ rest.head? ∨ accepts c = false) : Run accepts text rest' where
  inside := run.inside
  stops c begins := (first c begins).elim (run.stops c) id

/-- Whether a lexeme is a numeral without decimals, which a point and a digit behind it would
become. -/
def IsWhole (role : Role) (text : List Char) : Prop :=
  (∃ x, role = .token (.number x)) ∧ '.' ∉ text

/-- A lexeme stays one in front of a text that begins with the same character or with a blank.
Only behind a numeral without decimals more than one character counts. -/
theorem Lexeme.replace_rest {role : Role} {text rest rest' : List Char}
    (lexeme : Lexeme role text rest) (closed : role.isUnclosed = false)
    (first : ∀ c ∈ rest'.head?, c ∈ rest.head? ∨
      isBlank c = true ∧ (role = .lineComment → c = '\n'))
    (decimals : IsWhole role text → ∀ d later, rest' = '.' :: d :: later → d.isDigit = true →
      ∃ later', rest = '.' :: d :: later') : Lexeme role text rest' := by
  have stops {accepts : Char → Bool}
      (apart : [' ', '\r', '\t', '\n'].all (fun d => !accepts d) = true) :
      ∀ c ∈ rest'.head?, c ∈ rest.head? ∨ accepts c = false := fun c begins =>
    (first c begins).imp_right fun parts => eq_false_of_isBlank parts.1 apart
  have begins {c : Char} (notBlank : isBlank c = false) (starts : rest'.head? = some c) :
      rest.head? = some c := by
    rcases first c starts with same | ⟨blank, _⟩
    · exact same
    · rw [notBlank] at blank
      contradiction
  cases lexeme with
  | blank listed => exact .blank listed
  | lineComment run =>
    refine .lineComment (run.exchange fun c begins => ?_)
    exact (first c begins).imp_right fun parts => by simp [parts.2 rfl]
  | blockComment read opens balanced spelled =>
    exact lexeme_blockComment_exchange (.blockComment read opens balanced spelled) rest'
  | mark short noComment =>
    refine .mark (fun long longer starts => short long longer (begins rfl starts)) fun slash => ?_
    exact ⟨fun starts => (noComment slash).1 (begins rfl starts),
      fun starts => (noComment slash).2 (begins rfl starts)⟩
  | string noQuote => exact .string noQuote
  | whole nonempty run noDecimals =>
    have noPoint : '.' ∉ text := fun point => absurd (run.inside _ point) (by decide)
    refine .whole nonempty (run.exchange (stops rfl)) fun d later same => ?_
    apply Bool.eq_false_iff.2
    intro digit
    rcases decimals ⟨⟨_, rfl⟩, noPoint⟩ d later same digit with ⟨later', before⟩
    rw [noDecimals d later' before] at digit
    contradiction
  | fraction nonempty digits decimalsNonempty run spelled =>
    exact .fraction nonempty digits decimalsNonempty (run.exchange (stops rfl)) spelled
  | keyword spelled letter run => exact .keyword spelled letter (run.exchange (stops rfl))
  | identifier noKeyword letter run =>
    exact .identifier noKeyword letter (run.exchange (stops rfl))
  | unexpectedCharacter other notDigit notLetter noMark =>
    exact .unexpectedCharacter other notDigit notLetter noMark
  | unterminatedString => contradiction
  | unterminatedBlockComment => contradiction

/-- A lexeme stays one in front of a text that does not continue it. -/
theorem Lexeme.exchange {role : Role} {text rest rest' : List Char}
    (lexeme : Lexeme role text rest) (closed : role.isUnclosed = false)
    (exchangeable : Exchangeable role rest rest') : Lexeme role text rest' :=
  lexeme.replace_rest closed exchangeable.first fun _ => exchangeable.decimals

/-- Behind a lexeme and further text, what follows can be exchanged for a text that begins
with a blank. -/
theorem exchangeable_append {role : Role} {c : Char} (text x more : List Char)
    (blank : isBlank c = true) (ends : text = [] → role = .lineComment → c = '\n') :
    Exchangeable role (text ++ x) (text ++ c :: more) := by
  constructor
  · intro first begins
    cases text with
    | nil =>
      obtain rfl : c = first := Option.some.inj begins
      exact .inr ⟨blank, ends rfl⟩
    | cons d text => exact .inl begins
  · intro d later same digit
    have notDigit : c.isDigit = false := eq_false_of_isBlank blank rfl
    rcases text with _ | ⟨point, _ | ⟨d', text⟩⟩
    · obtain rfl : c = '.' := (List.cons.inj same).1
      contradiction
    · obtain rfl : c = d := (List.cons.inj (List.cons.inj same).2).1
      rw [notDigit] at digit
      contradiction
    · obtain ⟨rfl, behind⟩ := List.cons.inj same
      obtain rfl : d' = d := (List.cons.inj behind).1
      exact ⟨text ++ x, rfl⟩

/-! ## Segments in front of a blank -/

/-- No segment of a division is empty. -/
theorem Segmentation.text_ne_nil {cs : List Char} {segs : List Segment}
    (divided : Segmentation cs segs) {segment : Segment} (member : segment ∈ segs) :
    segment.text ≠ [] := by
  rw [← divided.segments_eq] at member
  exact text_ne_nil_of_mem_segments member

/-- Only the last segment can be unclosed. -/
theorem Segmentation.isUnclosed_eq_false {cs : List Char} {earlier later : List Segment}
    (divided : Segmentation cs (earlier ++ later)) (nonempty : later ≠ []) :
    ∀ segment ∈ earlier, segment.role.isUnclosed = false := by
  intro segment member
  rcases List.append_of_mem member with ⟨front, back, rfl⟩
  have lexeme := divided.lexemes front segment (back ++ later) (by simp)
  apply Bool.eq_false_iff.2
  intro unclosed
  have nothing : (back ++ later).flatMap Segment.text = [] := lexeme.rest_eq_nil unclosed
  rcases List.exists_mem_of_ne_nil later nonempty with ⟨last, behind⟩
  refine divided.text_ne_nil (List.mem_append_right _ behind) ?_
  exact List.flatMap_eq_nil_iff.1 nothing last (List.mem_append_right _ behind)

/-- The segments in front of a blank are those that were in front of another text. -/
theorem Segmentation.append_blank {cs : List Char} {earlier later : List Segment} {c : Char}
    (divided : Segmentation cs (earlier ++ later))
    (closed : ∀ segment ∈ earlier, segment.role.isUnclosed = false)
    (blank : isBlank c = true)
    (ends : ∀ front segment, earlier = front ++ [segment] → segment.role = .lineComment →
      c = '\n')
    (more : List Char) :
    segments (earlier.flatMap Segment.text ++ c :: more) = earlier ++ segments (c :: more) := by
  apply Segmentation.segments_eq
  induction earlier generalizing cs with
  | nil => exact segmentation_segments _
  | cons segment earlier ih =>
    rcases segmentation_cons.1 divided with ⟨rest, rfl, lexeme, remains⟩
    rcases List.forall_mem_cons.1 closed with ⟨closedHere, closedLater⟩
    refine segmentation_cons.2
      ⟨earlier.flatMap Segment.text ++ c :: more, by simp, lexeme.exchange closedHere ?_,
        ih remains closedLater fun front last same => ends (segment :: front) last (by simp [same])⟩
    have whole : earlier.flatMap Segment.text ++ later.flatMap Segment.text = rest := by
      rw [← List.flatMap_append]
      exact remains.whole
    rw [← whole]
    refine exchangeable_append _ _ _ blank fun nothing => ends [] segment ?_
    -- No segment is empty, so this one is the last.
    rcases earlier with _ | ⟨next, earlier⟩
    · rfl
    · exact absurd (List.append_eq_nil_iff.1 nothing).1 (remains.text_ne_nil List.mem_cons_self)

end LoxExpr.Lexical
