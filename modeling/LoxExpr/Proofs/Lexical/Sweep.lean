import LoxExpr.Proofs.Lexical.Scanner
import LoxExpr.Proofs.Text.Family

/-!
# Scanning with cursors

A scanner can walk over its source with two cursors.  One of them stays where a segment starts,
and the other one takes a character after the other, without knowing where the segment will
end: it looks at the next character or at the next two, and moves on or stops.  The lines are
those that the cursor has counted, and the text of a token is what can be cut out between the
cursors.

Main results:

- Theorem `Lexical.finds_readFrom?`: behind the first character of a segment, the cursor passes
  the tail of the segment and finds its role.
- Theorem `Lexical.trail_start_iff`: the segments of a source are the stretches that a cursor
  passes in this way, each on the line that the cursor has counted.
- Theorem `Sweep.runs_startAfter`: the walk always comes to its end, all texts can be cut out,
  and it leaves what a scan leaves.
-/

namespace LoxExpr

open Text (Cursor)
open Text.Cursor (Passes)

namespace Text.Cursor

/-! ## Single steps -/

variable {cursor : Cursor} {c : Char} {rest : List Char}

/-- A stretch that is passed leaves what follows it. -/
theorem Passes.rest_eq {last : Cursor} {stretch : List Char} (passes : Passes cursor stretch last)
    (ahead : cursor.rest = stretch ++ rest) : last.rest = rest :=
  List.append_cancel_left (passes.rest.symm.trans ahead)

/-- The next character is passed. -/
theorem passes_advance_of_rest (ahead : cursor.rest = c :: rest) :
    Passes cursor [c] cursor.advance := by
  have once := passes_advance cursor
  rwa [ahead, List.take_succ_cons, List.take_zero] at once

/-- The next two characters are passed one after the other. -/
theorem passes_advance_advance {d : Char} (ahead : cursor.rest = c :: d :: rest) :
    Passes cursor [c, d] cursor.advance.advance := by
  have first := passes_advance_of_rest ahead
  exact first.trans (passes_advance_of_rest (first.rest_eq ahead))

/-- An expected character that is next is passed. -/
theorem advanceIf_of_rest (ahead : cursor.rest = c :: rest) :
    cursor.advanceIf c = (true, cursor.advance) := by
  simp [advanceIf, peek?, ahead]

theorem advanceIf_of_ne (other : cursor.rest.head? ≠ some c) :
    cursor.advanceIf c = (false, cursor) :=
  if_neg other

/-- The stretch that is passed is what can be cut out. -/
theorem Placed.sliceUntil?_of_passes {last : Cursor} {stretch : List Char}
    (placed : cursor.Placed) (passes : Passes cursor stretch last) :
    cursor.sliceUntil? last = some stretch :=
  placed.sliceUntil?_of_append (placed.passes passes) passes.source.symm
    (placed.consumed_passes passes).symm

/-- Looking at the next two characters tells how the rest of the text begins. -/
theorem peek?_and_peekNext?_iff {d : Char} :
    cursor.peek? = some c ∧ cursor.peekNext? = some d ↔ ∃ rest, cursor.rest = c :: d :: rest := by
  rcases cursor with ⟨source, _ | ⟨first, _ | ⟨second, rest⟩⟩, line⟩ <;> simp [peek?, peekNext?]

/-- A cursor that passes a character has fewer of them before it. -/
theorem length_rest_advance_lt (more : cursor.peek? ≠ none) :
    cursor.advance.rest.length < cursor.rest.length := by
  rcases List.exists_cons_of_ne_nil (mt List.head?_eq_none_iff.2 more) with ⟨c, rest, ahead⟩
  rw [(passes_advance_of_rest ahead).rest_eq ahead, ahead]
  exact Nat.lt_succ_self _

/-- A cursor never has more characters before it than it had. -/
theorem length_rest_advance_le (cursor : Cursor) :
    cursor.advance.rest.length ≤ cursor.rest.length := by
  rw [(passes_advance cursor).rest, List.length_append]
  exact Nat.le_add_left _ _

end Text.Cursor

namespace Lexical

/-! ## Reading a segment -/

/-- Reads what follows the first character of a mark. -/
def readMark (mark : Mark) (current : Cursor) : Role × Cursor :=
  match mark.withEqual? with
  | some long =>
    match current.advanceIf '=' with
    | (true, behind) => (.token (.mark long), behind)
    | (false, behind) => (.token (.mark mark), behind)
  | none => (.token (.mark mark), current)

/-- Reads what follows the opening of a block comment, when a number of comments are open. -/
def readBlockComment (depth : Nat) (current : Cursor) : Role × Cursor :=
  match depth with
  | 0 => (.blockComment, current)
  | depth + 1 =>
    if _ended : current.peek? = none then (.fault .unterminatedBlockComment, current)
    else if current.peek? = some '*' ∧ current.peekNext? = some '/' then
      readBlockComment depth current.advance.advance
    else if current.peek? = some '/' ∧ current.peekNext? = some '*' then
      readBlockComment (depth + 2) current.advance.advance
    else readBlockComment (depth + 1) current.advance
termination_by current.rest.length
decreasing_by
  · exact Nat.lt_of_le_of_lt (Cursor.length_rest_advance_le _)
      (Cursor.length_rest_advance_lt _ended)
  · exact Nat.lt_of_le_of_lt (Cursor.length_rest_advance_le _)
      (Cursor.length_rest_advance_lt _ended)
  · exact Cursor.length_rest_advance_lt _ended

/-- Reads what follows a slash. -/
def readSlash (current : Cursor) : Role × Cursor :=
  match current.advanceIf '/' with
  | (true, next) => (.lineComment, next.advanceWhile (· != '\n'))
  | (false, next) =>
    match next.advanceIf '*' with
    | (true, next) => readBlockComment 1 next
    | (false, next) => (.token (.mark .slash), next)

/-- Reads what follows the first quote of a string.  The value is cut out of the text. -/
def readString? (start current : Cursor) : Option (Role × Cursor) :=
  match (current.advanceWhile (· != '"')).advanceIf '"' with
  | (true, behind) =>
    (start.sliceUntil? behind).map fun text =>
      (.token (.string (String.ofList (text.drop 1).dropLast)), behind)
  | (false, behind) => some (.fault .unterminatedString, behind)

/-- Whether a point is next and a digit behind it. -/
def startsDecimals (cursor : Cursor) : Bool :=
  cursor.peek? == some '.' && cursor.peekNext?.any Char.isDigit

/-- Passes the digits of a numeral behind the first one, and the decimals if there are any. -/
def passNumeral (current : Cursor) : Cursor :=
  let whole := current.advanceWhile Char.isDigit
  if startsDecimals whole then whole.advance.advanceWhile Char.isDigit else whole

/-- Reads what follows the first digit of a numeral. -/
def readNumeral? (start current : Cursor) : Option (Role × Cursor) :=
  let behind := passNumeral current
  (start.sliceUntil? behind).map fun text => (.token (.number (Binary64.ofNumeral text)), behind)

/-- Reads what follows the first letter of a word. -/
def readWord? (start current : Cursor) : Option (Role × Cursor) :=
  let behind := current.advanceWhile continuesWord
  (start.sliceUntil? behind).map fun text =>
    match Keyword.ofSpelling? (String.ofList text) with
    | some keyword => (.token (.keyword keyword), behind)
    | none => (.token .identifier, behind)

/-- Reads what follows a character, which decides what is read. -/
def readFrom? (c : Char) (start current : Cursor) : Option (Role × Cursor) :=
  if c = '/' then some (readSlash current)
  else
    match Mark.ofChar? c with
    | some mark => some (readMark mark current)
    | none =>
      if c = '"' then readString? start current
      else if c.isDigit then readNumeral? start current
      else if Text.isAlphabetic c then readWord? start current
      else if isBlank c then some (.blank, current)
      else some (.fault (.unexpectedCharacter c), current)

/-! ## What is found -/

/-- What is cut behind the opening of a block comment: all that remains, if it is not closed. -/
def cutBlockComment (outer : Nat) (cs : List Char) : Cut :=
  match blockCommentTail? outer cs with
  | some (tail, rest) => ⟨.blockComment, tail, rest⟩
  | none => ⟨.fault .unterminatedBlockComment, cs, []⟩

/-- Whether a cursor comes to the end of a segment and to its role, from behind the first
character. -/
def Finds (current : Cursor) (found : Cut) (outcome : Option (Role × Cursor)) : Prop :=
  ∃ behind, outcome = some (found.role, behind) ∧ Passes current found.tail behind

section

variable {start current : Cursor} {c : Char} {cs : List Char}

/-- A mark is found, and the equals sign that makes it a longer one. -/
theorem finds_readMark (mark : Mark) (ahead : current.rest = cs) :
    Finds current (cutMark mark cs) (some (readMark mark current)) := by
  unfold readMark
  fun_cases cutMark mark cs with
  | case1 long rest longer =>
    simp only [longer, Cursor.advanceIf_of_rest ahead]
    exact ⟨_, rfl, Cursor.passes_advance_of_rest ahead⟩
  | case2 cs short =>
    refine ⟨current, ?_, .refl current⟩
    cases longer : mark.withEqual? with
    | none => rfl
    | some long =>
      have other : current.rest.head? ≠ some '=' := by
        intro next
        rcases List.head?_eq_some_iff.1 next with ⟨rest, begins⟩
        exact short long rest longer (ahead.symm.trans begins)
      simp only [Cursor.advanceIf_of_ne other]

/-- What stands in front of the place where a block comment ends is passed as well. -/
theorem Finds.blockComment {outer outer' : Nat} {next : Cursor} {front : List Char}
    (passes : Passes current front next)
    (found : Finds next (cutBlockComment outer cs) (some (readBlockComment (outer + 1) next)))
    (counts : blockCommentTail? outer' (front ++ cs) =
      (blockCommentTail? outer cs).map fun (tail, rest) => (front ++ tail, rest)) :
    Finds current (cutBlockComment outer' (front ++ cs))
      (some (readBlockComment (outer + 1) next)) := by
  rcases found with ⟨behind, read, later⟩
  refine ⟨behind, ?_, ?_⟩
  · rw [read, cutBlockComment, cutBlockComment, counts]
    cases blockCommentTail? outer cs <;> rfl
  · have both := passes.trans later
    unfold cutBlockComment at both ⊢
    rw [counts]
    cases closed : blockCommentTail? outer cs <;> simpa [closed] using both

/-- The markers of a block comment are counted up to its end. -/
theorem finds_readBlockComment (outer : Nat) (ahead : current.rest = cs) :
    Finds current (cutBlockComment outer cs) (some (readBlockComment (outer + 1) current)) := by
  -- By induction on how the tail is divided off: the cursor counts the comments that are open,
  -- which are one more than the outer ones.
  fun_induction blockCommentTail? outer cs generalizing current with
  | case1 outer =>
    refine ⟨current, ?_, .refl current⟩
    simp [readBlockComment, Cursor.peek?, ahead, cutBlockComment, blockCommentTail?]
  | case2 cs =>
    refine ⟨current.advance.advance, ?_, Cursor.passes_advance_advance ahead⟩
    simp [readBlockComment, Cursor.peek?, Cursor.peekNext?, ahead, cutBlockComment,
      blockCommentTail?]
  | case3 cs n ih =>
    have passes := Cursor.passes_advance_advance ahead
    have read : readBlockComment (n + 1 + 1) current =
        readBlockComment (n + 1) current.advance.advance := by
      rw [readBlockComment]
      simp [Cursor.peek?, Cursor.peekNext?, ahead]
    rw [read]
    exact .blockComment passes (ih (passes.rest_eq ahead)) (by simp [blockCommentTail?])
  | case4 outer cs ih =>
    have passes := Cursor.passes_advance_advance ahead
    have read : readBlockComment (outer + 1) current =
        readBlockComment (outer + 1 + 1) current.advance.advance := by
      rw [readBlockComment]
      simp [Cursor.peek?, Cursor.peekNext?, ahead]
    rw [read]
    exact .blockComment passes (ih (passes.rest_eq ahead)) (by simp [blockCommentTail?])
  | case5 outer c cs noClosing noOpening ih =>
    have passes := Cursor.passes_advance_of_rest ahead
    have notClosing : ¬(current.peek? = some '*' ∧ current.peekNext? = some '/') := by
      intro closing
      rcases Cursor.peek?_and_peekNext?_iff.1 closing with ⟨later, both⟩
      rcases List.cons.inj (ahead.symm.trans both) with ⟨star, slash⟩
      exact noClosing later star slash
    have notOpening : ¬(current.peek? = some '/' ∧ current.peekNext? = some '*') := by
      intro opening
      rcases Cursor.peek?_and_peekNext?_iff.1 opening with ⟨later, both⟩
      rcases List.cons.inj (ahead.symm.trans both) with ⟨slash, star⟩
      exact noOpening later slash star
    have more : current.peek? ≠ none := by simp [Cursor.peek?, ahead]
    have read : readBlockComment (outer + 1) current =
        readBlockComment (outer + 1) current.advance := by
      rw [readBlockComment, dif_neg more, if_neg notClosing, if_neg notOpening]
    rw [read]
    exact .blockComment passes (ih (passes.rest_eq ahead)) (by simp [blockCommentTail?])

/-- The opening of a block comment is cut together with what follows it. -/
theorem cutSlash_star (cs : List Char) :
    cutSlash ('*' :: cs) =
      ⟨(cutBlockComment 0 cs).role, '*' :: (cutBlockComment 0 cs).tail,
        (cutBlockComment 0 cs).rest⟩ := by
  rw [cutSlash, cutBlockComment]
  cases blockCommentTail? 0 cs <;> rfl

/-- Behind a slash, a comment of either form is found, or the mark alone. -/
theorem finds_readSlash (ahead : current.rest = cs) :
    Finds current (cutSlash cs) (some (readSlash current)) := by
  unfold readSlash
  by_cases line : current.rest.head? = some '/'
  · rcases List.head?_eq_some_iff.1 line with ⟨later, begins⟩
    have passes := Cursor.passes_advance_of_rest begins
    have comment := Cursor.passes_advanceWhile current.advance (· != '\n')
    rw [passes.rest_eq begins] at comment
    rw [← ahead, begins, Cursor.advanceIf_of_rest begins]
    exact ⟨_, rfl, passes.trans comment⟩
  rw [Cursor.advanceIf_of_ne line]
  by_cases block : current.rest.head? = some '*'
  · rcases List.head?_eq_some_iff.1 block with ⟨later, begins⟩
    have passes := Cursor.passes_advance_of_rest begins
    rcases finds_readBlockComment 0 (passes.rest_eq begins) with ⟨behind, read, comment⟩
    simp only [Cursor.advanceIf_of_rest begins]
    rw [← ahead, begins, cutSlash_star]
    exact ⟨behind, read, passes.trans comment⟩
  · simp only [Cursor.advanceIf_of_ne block]
    have short : cutSlash cs = ⟨.token (.mark .slash), [], cs⟩ := by
      rw [ahead] at line block
      fun_cases cutSlash cs with
      | case1 | case2 | case3 => simp at line block
      | case4 => rfl
    rw [short]
    exact ⟨current, rfl, .refl current⟩

/-- A string is found up to its second quote, if there is one, and its value is cut out. -/
theorem finds_readString? (placed : start.Placed) (opens : Passes start ['"'] current)
    (ahead : current.rest = cs) : Finds current (cutString cs) (readString? start current) := by
  have content := Cursor.passes_advanceWhile current (· != '"')
  have behind := Cursor.rest_advanceWhile current (· != '"')
  rw [ahead] at content behind
  unfold readString? cutString
  cases remains : cs.dropWhile (· != '"') with
  | nil =>
    have whole : cs.takeWhile (· != '"') ++ cs.dropWhile (· != '"') = cs :=
      List.takeWhile_append_dropWhile
    rw [remains, List.append_nil] at whole
    rw [remains] at behind
    rw [whole] at content
    rw [Cursor.advanceIf_of_ne (by simp [behind])]
    exact ⟨_, rfl, content⟩
  | cons quote rest =>
    obtain rfl : quote = '"' := by
      have stops := List.head?_dropWhile_not (· != '"') cs
      simpa [remains] using stops
    rw [remains] at behind
    have inside := content.trans (Cursor.passes_advance_of_rest behind)
    have text := placed.sliceUntil?_of_passes (opens.trans inside)
    simp only [Cursor.advanceIf_of_rest behind, text, Option.map_some]
    refine ⟨_, ?_, inside⟩
    simp

/-- A point and a digit are told by looking at the next two characters. -/
theorem startsDecimals_iff :
    startsDecimals current = true ↔ ∃ d rest, current.rest = '.' :: d :: rest ∧
      d.isDigit = true := by
  rcases current with ⟨source, _ | ⟨first, _ | ⟨second, rest⟩⟩, line⟩ <;>
    simp [startsDecimals, Cursor.peek?, Cursor.peekNext?]

/-- The digits of a numeral are passed, and the decimals behind a point that digits follow. -/
theorem passes_passNumeral (ahead : current.rest = cs) :
    Passes current (numeralTail cs).1 (passNumeral current) := by
  have whole := Cursor.passes_advanceWhile current Char.isDigit
  have behind := Cursor.rest_advanceWhile current Char.isDigit
  rw [ahead] at whole behind
  unfold passNumeral
  fun_cases numeralTail cs with
  | case1 _ d rest remains digit =>
    rw [remains] at behind
    have point := Cursor.passes_advance_of_rest behind
    have decimals := Cursor.passes_advanceWhile
      (current.advanceWhile Char.isDigit).advance Char.isDigit
    rw [point.rest_eq behind, List.takeWhile_cons_of_pos digit] at decimals
    simp only [startsDecimals_iff.2 ⟨d, rest, behind, digit⟩, if_true]
    exact whole.trans (point.trans decimals)
  | case2 _ d rest remains notDigit =>
    rw [if_neg]
    · exact whole
    · intro starts
      rcases startsDecimals_iff.1 starts with ⟨d', rest', begins, digit⟩
      rw [behind, remains] at begins
      cases begins
      exact notDigit digit
  | case3 _ notPoint =>
    rw [if_neg]
    · exact whole
    · intro starts
      rcases startsDecimals_iff.1 starts with ⟨d, rest, begins, _⟩
      exact notPoint d rest (behind.symm.trans begins)

/-- A numeral is found, and its value is read from its text. -/
theorem finds_readNumeral? (placed : start.Placed) (opens : Passes start [c] current)
    (ahead : current.rest = cs) : Finds current (cutNumeral c cs) (readNumeral? start current) := by
  have numeral := passes_passNumeral ahead
  have text := placed.sliceUntil?_of_passes (opens.trans numeral)
  simp only [readNumeral?, text, Option.map_some]
  exact ⟨_, rfl, numeral⟩

/-- A word is found up to its last character. -/
theorem finds_readWord? (placed : start.Placed) (opens : Passes start [c] current)
    (ahead : current.rest = cs) : Finds current (cutWord c cs) (readWord? start current) := by
  have word := Cursor.passes_advanceWhile current continuesWord
  rw [ahead] at word
  have text := placed.sliceUntil?_of_passes (opens.trans word)
  simp only [readWord?, text, Option.map_some]
  refine ⟨_, ?_, word⟩
  simp only [cutWord, List.cons_append, List.nil_append]
  cases Keyword.ofSpelling? (String.ofList (c :: cs.takeWhile continuesWord)) <;> rfl

/-- Behind the first character of a segment, its tail is passed and its role is found. -/
theorem finds_readFrom? (placed : start.Placed) (ahead : start.rest = c :: cs) :
    Finds start.advance (cut c cs) (readFrom? c start start.advance) := by
  have opens := Cursor.passes_advance_of_rest ahead
  have behind : start.advance.rest = cs := opens.rest_eq ahead
  unfold readFrom?
  by_cases slash : c = '/'
  · subst slash
    rw [if_pos rfl, cut_slash]
    exact finds_readSlash behind
  rw [if_neg slash]
  cases found : Mark.ofChar? c with
  | some mark =>
    have spelled := ofChar?_eq_some_iff.1 found
    have other : mark ≠ .slash := by
      rintro rfl
      exact slash (List.cons.inj spelled).1.symm
    rw [cut_of_spelling spelled other]
    exact finds_readMark mark behind
  | none =>
    by_cases quote : c = '"'
    · subst quote
      simp only [if_true, cut_quote]
      exact finds_readString? placed opens behind
    by_cases digit : c.isDigit = true
    · simp only [quote, digit, if_true, if_false, cut_of_isDigit digit]
      exact finds_readNumeral? placed opens behind
    by_cases letter : Text.isAlphabetic c = true
    · simp only [quote, digit, letter, if_true, if_false, cut_of_isAlphabetic letter]
      exact finds_readWord? placed opens behind
    have single : cut c cs =
        ⟨if isBlank c then .blank else .fault (.unexpectedCharacter c), [], cs⟩ := by
      simp only [cut, slash, quote, digit, letter, found, if_false]
      split <;> rfl
    simp only [quote, digit, letter, if_false, Bool.false_eq_true, single]
    exact ⟨start.advance, by split <;> rfl, .refl start.advance⟩

end

/-! ## Stretches -/

/-- Reads a segment from its first character on. -/
def readSegment? (start : Cursor) : Option (Role × Cursor) :=
  match start.next? with
  | (some c, current) => readFrom? c start current
  | (none, _) => none

/-- The first segment of what a cursor has before it is what it reads. -/
theorem exists_readSegment? {start : Cursor} {c : Char} {cs : List Char} (placed : start.Placed)
    (ahead : start.rest = c :: cs) :
    ∃ behind, readSegment? start = some ((cut c cs).role, behind) ∧
      Passes start (c :: (cut c cs).tail) behind ∧ behind.rest = (cut c cs).rest := by
  rcases finds_readFrom? placed ahead with ⟨behind, read, tail⟩
  have passes := (Cursor.passes_advance_of_rest ahead).trans tail
  refine ⟨behind, ?_, passes, passes.rest_eq ?_⟩
  · simp only [readSegment?, Cursor.next?, Cursor.peek?, ahead, List.head?_cons, read]
  · rw [ahead, List.append_assoc, cut_append]
    rfl

/-- A cursor reads segments one after the other.  The text of each is what can be cut out, and
its line is the one that the cursor comes to. -/
inductive Trail : Cursor → List PlacedSegment → Cursor → Prop
  | stay {cursor} : Trail cursor [] cursor
  | read {start behind last role text later} :
    readSegment? start = some (role, behind) →
    start.sliceUntil? behind = some text →
    Trail behind later last →
    Trail start (⟨⟨text, role⟩, behind.line⟩ :: later) last

/-- The first of the placed segments that a cursor has before it is cut out and on the line of
the cursor behind it, and the others are those that this one has before it. -/
theorem exists_place_eq {start : Cursor} (placed : start.Placed) (more : start.rest ≠ []) :
    ∃ role behind text, readSegment? start = some (role, behind) ∧
      start.sliceUntil? behind = some text ∧ Passes start text behind ∧ text ≠ [] ∧
      place start.line (segments start.rest) =
        ⟨⟨text, role⟩, behind.line⟩ :: place behind.line (segments behind.rest) := by
  rcases List.exists_cons_of_ne_nil more with ⟨c, cs, ahead⟩
  rcases exists_readSegment? placed ahead with ⟨behind, read, passes, rest⟩
  refine ⟨_, behind, _, read, placed.sliceUntil?_of_passes passes, passes,
    List.cons_ne_nil _ _, ?_⟩
  rw [ahead, segments_cons, place, passes.line, rest]
  rfl

/-- What a cursor reads up to the end are the segments that it has before it, on the lines
that follow its own. -/
theorem Trail.eq_place {start last : Cursor} {found : List PlacedSegment}
    (trail : Trail start found last) (placed : start.Placed) (ends : last.isAtEnd = true) :
    found = place start.line (segments start.rest) := by
  induction trail with
  | stay => rw [List.isEmpty_iff.1 ends, segments_nil, place]
  | @read start behind last role text later read between _ ih =>
    have more : start.rest ≠ [] := by
      intro hnil
      simp [readSegment?, Cursor.next?, Cursor.peek?, hnil] at read
    rcases exists_place_eq placed more with
      ⟨role', behind', text', read', between', passes, _, places⟩
    obtain ⟨rfl, rfl⟩ := Prod.mk.inj (Option.some.inj (read'.symm.trans read))
    obtain rfl := Option.some.inj (between'.symm.trans between)
    rw [places, ih (placed.passes passes) ends]

/-- A cursor reads all segments that it has before it. -/
theorem exists_trail {start : Cursor} (placed : start.Placed) :
    ∃ last, Trail start (place start.line (segments start.rest)) last ∧
      last.isAtEnd = true := by
  induction size : start.rest.length using Nat.strongRecOn generalizing start with
  | ind size ih =>
    by_cases more : start.rest = []
    · rw [more, segments_nil, place]
      exact ⟨start, .stay, List.isEmpty_iff.2 more⟩
    · rcases exists_place_eq placed more with
        ⟨role, behind, text, read, between, passes, nonempty, places⟩
      have shorter : behind.rest.length < start.rest.length := by
        have positive := List.length_pos_iff.2 nonempty
        rw [passes.rest, List.length_append]
        omega
      rcases ih _ (size ▸ shorter) (placed.passes passes) rfl with ⟨last, trail, ends⟩
      rw [places]
      exact ⟨last, .read read between trail, ends⟩

/-- The segments of a source, with their lines, are those that a cursor reads from its start
to its end. -/
theorem trail_start_iff {source : String} {found : List PlacedSegment} :
    (∃ last, Trail (.start source) found last ∧ last.isAtEnd = true) ↔
      found = placedSegments source := by
  have placed := Cursor.placed_start source
  constructor
  · intro read
    rcases read with ⟨last, trail, ends⟩
    exact trail.eq_place placed ends
  · intro all
    subst all
    exact exists_trail placed

end Lexical

/-! ## A whole walk -/

/-- A scanner that walks over its source with two cursors. -/
structure Sweep where
  start : Cursor
  current : Cursor
  tokens : List Token
  hadError : Bool
  reported : List Diagnostic

namespace Sweep

/-- A walk that begins at the start of a source, when something may have been reported
before. -/
def startAfter (sink : List Diagnostic) (source : String) : Sweep :=
  ⟨.start source, .start source, [], false, sink⟩

/-- Goes on to another place, which closes the segment that starts at the current one. -/
def moveTo (s : Sweep) (behind : Cursor) : Sweep :=
  { s with start := s.current, current := behind }

/-- Appends a token that ends here. -/
def addToken (s : Sweep) (symbol : Symbol) (text : List Char) : Sweep :=
  { s with tokens := s.tokens ++ [⟨symbol, String.ofList text, s.current.line⟩] }

/-- Reports a fault that ends here, and raises the flag. -/
def fail (s : Sweep) (fault : Lexical.Fault) : Sweep :=
  { s with
    hadError := true
    reported := s.reported ++ [⟨s.current.line, .nowhere, fault.message⟩] }

/-- Keeps what was found at the end of a segment.  The text of a token is cut out. -/
def keep? (s : Sweep) : Lexical.Role → Option Sweep
  | .token symbol => (s.start.sliceUntil? s.current).map (s.addToken symbol)
  | .fault fault => some (s.fail fault)
  | .blank | .lineComment | .blockComment => some s

/-- Reads a segment from the current place on. -/
def step? (s : Sweep) : Option Sweep :=
  (Lexical.readSegment? s.current).bind fun (role, behind) => (s.moveTo behind).keep? role

/-- Closes the tokens with the end of the input. -/
def finish (s : Sweep) : Sweep :=
  { s with tokens := s.tokens ++ [Token.endOfInput s.current.line] }

/-- A walk reads segments while there are characters left. -/
inductive Runs : Sweep → Sweep → Prop
  | atEnd {s} : s.current.isAtEnd = true → Runs s s.finish
  | step {s next last} :
    s.current.isAtEnd = false → s.step? = some next → Runs next last → Runs s last

/-- A walk does not come to two ends. -/
theorem Runs.unique {s last other : Sweep} (first : Runs s last) (second : Runs s other) :
    other = last := by
  induction first with
  | atEnd ends =>
    cases second with
    | atEnd => rfl
    | step more =>
      rw [ends] at more
      contradiction
  | step more stepped _ ih =>
    cases second with
    | atEnd ends =>
      rw [ends] at more
      contradiction
    | step _ stepped' later =>
      obtain rfl := Option.some.inj (stepped'.symm.trans stepped)
      exact ih later

/-- The scanner that is told where its segments end. -/
def scanner (s : Sweep) : Scanner :=
  ⟨s.current.rest, s.current.line, s.tokens, s.hadError, s.reported⟩

/-- What is kept of a segment that is passed is what a scanner keeps of it. -/
theorem exists_keep? {s : Sweep} {behind : Cursor} {text : List Char} (placed : s.current.Placed)
    (passes : Passes s.current text behind) (role : Lexical.Role) :
    ∃ next, (s.moveTo behind).keep? role = some next ∧ next.start = s.current ∧
      next.current = behind ∧ next.scanner = s.scanner.pass ⟨text, role⟩ behind.rest := by
  have between : (s.moveTo behind).start.sliceUntil? (s.moveTo behind).current = some text :=
    placed.sliceUntil?_of_passes passes
  have line : behind.line = s.current.line + Lexical.lineBreaks text := passes.line
  cases role with
  | token symbol =>
    refine ⟨(s.moveTo behind).addToken symbol text, ?_, rfl, rfl, ?_⟩
    · rw [keep?, between, Option.map_some]
    · simp [scanner, addToken, moveTo, Scanner.pass, Scanner.addToken, line]
  | fault fault =>
    refine ⟨_, rfl, rfl, rfl, ?_⟩
    simp [scanner, fail, moveTo, Scanner.pass, Scanner.fail, line]
  | blank | lineComment | blockComment =>
    refine ⟨_, rfl, rfl, rfl, ?_⟩
    simp [scanner, moveTo, Scanner.pass, line]

/-- Where a scanner passes a segment, a walk passes its characters and keeps the same. -/
theorem exists_step? {s : Sweep} {c : Char} {cs : List Char} (placed : s.current.Placed)
    (ahead : s.current.rest = c :: cs) :
    ∃ next, s.step? = some next ∧ next.start = s.current ∧
      Passes s.current (c :: (Lexical.cut c cs).tail) next.current ∧
      next.scanner =
        s.scanner.pass ⟨c :: (Lexical.cut c cs).tail, (Lexical.cut c cs).role⟩
          (Lexical.cut c cs).rest := by
  rcases Lexical.exists_readSegment? placed ahead with ⟨behind, read, passes, rest⟩
  rcases exists_keep? placed passes (Lexical.cut c cs).role with
    ⟨next, kept, start, rfl, scanner⟩
  refine ⟨next, ?_, start, passes, ?_⟩
  · rw [step?, read]
    exact kept
  · rw [scanner, rest]

/-- From any place on, a walk comes to the end of its source and keeps what a scanner keeps. -/
theorem exists_runs {s : Sweep} (placed : s.current.Placed) :
    ∃ last, Runs s last ∧ last.current.isAtEnd = true ∧ last.scanner = s.scanner.run := by
  generalize held : s.scanner = scanner
  fun_induction Scanner.run scanner generalizing s
  case case1 scanner ahead =>
    subst held
    have ends : s.current.isAtEnd = true := List.isEmpty_iff.2 ahead
    exact ⟨s.finish, .atEnd ends, ends, rfl⟩
  case case2 scanner c cs ahead found ih =>
    subst held
    have remains : s.current.rest = c :: cs := ahead
    have more : s.current.isAtEnd = false := by rw [Cursor.isAtEnd, remains, List.isEmpty_cons]
    rcases exists_step? placed remains with ⟨next, stepped, _, passes, reached⟩
    rcases ih (placed.passes passes) reached with ⟨last, runs, ends, same⟩
    exact ⟨last, .step more stepped runs, ends, same⟩

/-- A walk over a source comes to one end.  It leaves the tokens of a scan, its diagnostics
behind what was reported before, and the flag that tells whether there are any. -/
theorem runs_startAfter (sink : List Diagnostic) (source : String) :
    ∃ last, (∀ other, Runs (startAfter sink source) other ↔ other = last) ∧
      last.current.isAtEnd = true ∧ last.current.line = Lexical.endingLine source.toList ∧
      last.tokens = (scan source).tokens ∧ last.hadError = (scan source).hadError ∧
      last.reported = sink ++ (scan source).diagnostics := by
  have placed : (startAfter sink source).current.Placed := Cursor.placed_start source
  rcases exists_runs placed with ⟨last, runs, ends, same⟩
  have reached : last.scanner = (Scanner.startAfter sink source).run := same
  rw [Scanner.run_startAfter] at reached
  injection reached with _ line tokens hadError reported
  refine ⟨last, fun other => ⟨fun later => runs.unique later, ?_⟩, ends, line, tokens, hadError,
    reported⟩
  intro equal
  rw [equal]
  exact runs

end Sweep

end LoxExpr
