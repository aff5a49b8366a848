import LoxExpr.Number.Nearest
import LoxExpr.Text.Numeric
import LoxExpr.Token.Symbol

/-!
# Segments of a source

A source is cut, from left to right, into consecutive segments: blanks, comments,
tokens, and faults.  One character decides which class a segment belongs to, and
the class decides how far the segment reaches.  A fault never stops the cutting: a
stray character is a segment of its own, and a string or block comment that is
never closed takes the rest of the source.

Main results:

- Theorem `cut_append`: the tail of a segment and the rest make up the
  characters after its first one.
- Theorem `segments_cons`: the segments of a source are its first one and those
  of what follows it.
- Theorem `flatMap_text_segments`: the segments, put together again, are the
  source.
- Theorem `text_ne_nil_of_mem_segments`: no segment is empty.
-/

namespace LoxExpr.Lexical

/-! ## What a segment is -/

/-- Why a segment is neither a token nor to be skipped. -/
inductive Fault
  | unexpectedCharacter (c : Char)
  | unterminatedString
  | unterminatedBlockComment
deriving DecidableEq

/-- The message of a fault. -/
def Fault.message : Fault → String
  | .unexpectedCharacter _ => "Unexpected character."
  | .unterminatedString => "Unterminated string."
  | .unterminatedBlockComment => "Unterminated block comment."

/-- What a segment contributes. -/
inductive Role
  | blank
  | lineComment
  | blockComment
  | token (symbol : Symbol)
  | fault (fault : Fault)
deriving DecidableEq

/-- A stretch of a source with its role. -/
structure Segment where
  text : List Char
  role : Role
deriving DecidableEq

/-! ## Classes of characters -/

/-- The characters that separate tokens. -/
def isBlank (c : Char) : Bool :=
  c == ' ' || c == '\r' || c == '\t' || c == '\n'

/-- Whether a word goes on over a character. -/
def continuesWord (c : Char) : Bool :=
  Text.isAlphanumeric c || c == '_'

/-! ## How far a segment reaches -/

/-- Where the first segment of a source ends: how the characters after its first
one divide into the tail of the segment and the rest of the source. -/
structure Cut where
  role : Role
  tail : List Char
  rest : List Char

/-- Divides the characters after the first digit of a numeral.  A point belongs to
the numeral only if a digit follows the point. -/
def numeralTail (cs : List Char) : List Char × List Char :=
  let whole := cs.takeWhile Char.isDigit
  match cs.dropWhile Char.isDigit with
  | '.' :: d :: rest =>
    if d.isDigit then
      (whole ++ '.' :: d :: rest.takeWhile Char.isDigit, rest.dropWhile Char.isDigit)
    else (whole, '.' :: d :: rest)
  | rest => (whole, rest)

/-- Divides the characters after the opening of a block comment, if the comment is
closed.  Comments nest, so the markers are counted: `outer` comments stay open
when the innermost one closes. -/
def blockCommentTail? (outer : Nat) : List Char → Option (List Char × List Char)
  | [] => none
  | '*' :: '/' :: cs =>
    match outer with
    | 0 => some (['*', '/'], cs)
    | n + 1 => (blockCommentTail? n cs).map fun (tail, rest) => ('*' :: '/' :: tail, rest)
  | '/' :: '*' :: cs =>
    (blockCommentTail? (outer + 1) cs).map fun (tail, rest) => ('/' :: '*' :: tail, rest)
  | c :: cs => (blockCommentTail? outer cs).map fun (tail, rest) => (c :: tail, rest)

/-- Cuts a word: a keyword if it is spelled like one, otherwise an identifier. -/
def cutWord (c : Char) (cs : List Char) : Cut :=
  let tail := cs.takeWhile continuesWord
  let symbol :=
    match Keyword.ofSpelling? (String.ofList (c :: tail)) with
    | some keyword => .keyword keyword
    | none => .identifier
  ⟨.token symbol, tail, cs.dropWhile continuesWord⟩

/-- Cuts a numeral. -/
def cutNumeral (c : Char) (cs : List Char) : Cut :=
  let (tail, rest) := numeralTail cs
  ⟨.token (.number (Binary64.ofNumeral (c :: tail))), tail, rest⟩

/-- Cuts a string after its opening quote.  It reaches to the next quote, over any
other character. -/
def cutString (cs : List Char) : Cut :=
  let value := cs.takeWhile (· != '"')
  match cs.dropWhile (· != '"') with
  | [] => ⟨.fault .unterminatedString, cs, []⟩
  | quote :: rest => ⟨.token (.string (String.ofList value)), value ++ [quote], rest⟩

/-- Cuts what a slash begins: a comment of either form, or the mark.  A line
comment leaves its line break. -/
def cutSlash : List Char → Cut
  | '/' :: cs => ⟨.lineComment, '/' :: cs.takeWhile (· != '\n'), cs.dropWhile (· != '\n')⟩
  | '*' :: cs =>
    match blockCommentTail? 0 cs with
    | some (tail, rest) => ⟨.blockComment, '*' :: tail, rest⟩
    | none => ⟨.fault .unterminatedBlockComment, '*' :: cs, []⟩
  | cs => ⟨.token (.mark .slash), [], cs⟩

/-- Cuts a mark, together with the equals sign that makes it a longer one. -/
def cutMark (mark : Mark) (cs : List Char) : Cut :=
  match mark.withEqual?, cs with
  | some long, '=' :: rest => ⟨.token (.mark long), ['='], rest⟩
  | _, _ => ⟨.token (.mark mark), [], cs⟩

/-- Cuts the first segment of the source that begins with a character. -/
def cut (c : Char) (cs : List Char) : Cut :=
  if isBlank c then ⟨.blank, [], cs⟩
  else if c = '/' then cutSlash cs
  else if c = '"' then cutString cs
  else if c.isDigit then cutNumeral c cs
  else if Text.isAlphabetic c then cutWord c cs
  else
    match Mark.ofChar? c with
    | some mark => cutMark mark cs
    | none => ⟨.fault (.unexpectedCharacter c), [], cs⟩

/-! ## Nothing is lost -/

/-- The tail of a numeral and the rest make up the characters. -/
theorem numeralTail_append (cs : List Char) :
    (numeralTail cs).1 ++ (numeralTail cs).2 = cs := by
  have whole : cs.takeWhile Char.isDigit ++ cs.dropWhile Char.isDigit = cs :=
    List.takeWhile_append_dropWhile
  unfold numeralTail
  simp only
  split
  next d rest remainder =>
    rw [remainder] at whole
    split
    · simpa [List.takeWhile_append_dropWhile] using whole
    · exact whole
  next => exact whole

/-- The tail of a closed comment and the rest make up the characters. -/
theorem blockCommentTail?_append {outer : Nat} {cs tail rest : List Char}
    (h : blockCommentTail? outer cs = some (tail, rest)) : tail ++ rest = cs := by
  fun_induction blockCommentTail? outer cs generalizing tail rest with
  | case1 => simp at h
  | case2 cs =>
    simp only [Option.some.injEq, Prod.mk.injEq] at h
    rw [← h.1, ← h.2]
    rfl
  | case3 cs n ih | case4 outer cs ih | case5 outer c cs _ _ ih =>
    obtain ⟨⟨inner, after⟩, closed, same⟩ := Option.map_eq_some_iff.1 h
    simp only [Prod.mk.injEq] at same
    rw [← same.1, ← same.2]
    simp [ih closed]

/-- The tail of a segment and the rest make up the characters after the first. -/
theorem cut_append (c : Char) (cs : List Char) : (cut c cs).tail ++ (cut c cs).rest = cs := by
  unfold cut
  split
  · rfl
  split
  · unfold cutSlash
    split
    · simp
    · split
      next closed => simp [blockCommentTail?_append closed]
      next => simp
    · rfl
  split
  · have whole : cs.takeWhile (· != '"') ++ cs.dropWhile (· != '"') = cs :=
      List.takeWhile_append_dropWhile
    unfold cutString
    simp only
    split
    · simp
    next remainder =>
      rw [remainder] at whole
      simpa using whole
  split
  · exact numeralTail_append cs
  split
  · simp [cutWord]
  split
  · unfold cutMark
    split <;> rfl
  · rfl

/-- What follows a segment is no longer than what follows its first character. -/
theorem length_cut_rest_le (c : Char) (cs : List Char) : (cut c cs).rest.length ≤ cs.length := by
  have whole := congrArg List.length (cut_append c cs)
  rw [List.length_append] at whole
  omega

/-! ## All segments -/

/-- The segments of a source, from left to right. -/
def segments : List Char → List Segment
  | [] => []
  | c :: cs => ⟨c :: (cut c cs).tail, (cut c cs).role⟩ :: segments (cut c cs).rest
termination_by cs => cs.length
decreasing_by exact Nat.lt_succ_of_le (length_cut_rest_le c cs)

/-- An empty source has no segments. -/
@[simp] theorem segments_nil : segments [] = [] := by
  rw [segments]

/-- The segments of a source are its first one and those of what follows it. -/
theorem segments_cons (c : Char) (cs : List Char) :
    segments (c :: cs) =
      ⟨c :: (cut c cs).tail, (cut c cs).role⟩ :: segments (cut c cs).rest := by
  rw [segments]

/-- The segments of a source, put together again, are the source. -/
theorem flatMap_text_segments (cs : List Char) : (segments cs).flatMap Segment.text = cs := by
  fun_induction segments cs with
  | case1 => rfl
  | case2 c cs ih => simp [ih, cut_append]

/-- No segment is empty. -/
theorem text_ne_nil_of_mem_segments {cs : List Char} {segment : Segment}
    (h : segment ∈ segments cs) : segment.text ≠ [] := by
  fun_induction segments cs with
  | case1 => simp at h
  | case2 c cs ih =>
    rcases List.mem_cons.1 h with rfl | later
    · exact List.cons_ne_nil _ _
    · exact ih later

end LoxExpr.Lexical
