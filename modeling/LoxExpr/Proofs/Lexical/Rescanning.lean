import LoxExpr.Proofs.Lexical.Layout

/-!
# Scanning lexemes again

The lexemes of a source, with a blank between any two of them, are scanned to the same tokens.
A blank ends every lexeme where it ended in the source, and it is no part of one, so nothing
grows together and nothing falls apart.  What the source had between its lexemes is gone: its
blanks, its comments, and its faults.

Main results:

- Theorem `segments_spaced`: tokens with blanks between them are cut at the blanks.
- Theorem `tokens_filter_isToken`: without what stands between them, tokens change their lines
  only.
- Theorem `scan_lexemes`: the lexemes of a source, joined by blanks, are scanned to its tokens
  without a fault, and only the line breaks inside of lexemes count for their lines.
-/

namespace LoxExpr

/-! ## Tokens alone -/

namespace Token

/-- The lexemes of tokens, one behind the other. -/
def lexemes (ts : List Token) : List Char :=
  ts.flatMap fun t => t.lexeme.toList

/-- Tokens on the lines on which their lexemes end if there are no line breaks but those in
the lexemes, and in a text in front of them. -/
def reline (before : List Char) (ts : List Token) : List Token :=
  ts.mapIdx fun i t =>
    { t with line := Lexical.endingLine (before ++ lexemes (ts.take (i + 1))) }

/-- The first token stands on the line on which its lexeme ends, and the later ones behind
it. -/
theorem reline_cons (before : List Char) (t : Token) (ts : List Token) :
    reline before (t :: ts) =
      { t with line := Lexical.endingLine (before ++ t.lexeme.toList) } ::
        reline (before ++ t.lexeme.toList) ts := by
  simp [reline, List.mapIdx_cons, lexemes]

end Token

namespace Lexical

/-! ## Segments that are tokens -/

/-- Whether a segment is a token. -/
def Segment.isToken (segment : Segment) : Bool :=
  match segment.role with
  | .token _ => true
  | _ => false

/-- A token has a symbol. -/
theorem Segment.isToken_iff {segment : Segment} :
    segment.isToken = true ↔ ∃ symbol, segment.role = .token symbol := by
  rcases segment with ⟨text, role⟩
  cases role <;> simp [isToken]

/-- A segment that is a token is no fault. -/
theorem PlacedSegment.diagnostic?_of_isToken {placed : PlacedSegment}
    (token : placed.segment.isToken = true) : placed.diagnostic? = none := by
  rcases Segment.isToken_iff.1 token with ⟨symbol, role⟩
  simp [diagnostic?, fault?, role]

/-- A segment that is a token contributes it in front of what the later ones contribute. -/
theorem tokens_cons_of_isToken {segment : Segment} (token : segment.isToken = true) :
    ∃ symbol, ∀ line later,
      (Scan.ofPlaced (place line (segment :: later))).tokens =
        ⟨symbol, String.ofList segment.text, line + lineBreaks segment.text⟩ ::
          (Scan.ofPlaced (place (line + lineBreaks segment.text) later)).tokens := by
  rcases segment with ⟨text, role⟩
  rcases Segment.isToken_iff.1 token with ⟨symbol, rfl⟩
  exact ⟨symbol, fun line later => rfl⟩

/-- A segment that is no token contributes none. -/
theorem tokens_cons_of_not_isToken {segment : Segment} (other : ¬segment.isToken = true)
    (line : Nat) (later : List Segment) :
    (Scan.ofPlaced (place line (segment :: later))).tokens =
      (Scan.ofPlaced (place (line + lineBreaks segment.text) later)).tokens := by
  rcases segment with ⟨text, role⟩
  cases role with
  | token symbol => exact absurd rfl other
  | _ => rfl

/-- Without what stands between them, tokens change their lines only. -/
theorem tokens_filter_isToken (before : List Char) (line : Nat) (segs : List Segment) :
    (Scan.ofPlaced (place (endingLine before) (segs.filter Segment.isToken))).tokens =
      Token.reline before (Scan.ofPlaced (place line segs)).tokens := by
  induction segs generalizing before line with
  | nil => rfl
  | cons segment later ih =>
    by_cases token : segment.isToken = true
    · rcases tokens_cons_of_isToken token with ⟨symbol, contributes⟩
      rw [List.filter_cons_of_pos token, contributes, contributes, ← endingLine_append,
        Token.reline_cons, String.toList_ofList, ih]
    · rw [List.filter_cons_of_neg token, tokens_cons_of_not_isToken token]
      exact ih before _

/-- The lexemes of the tokens are the texts of the segments that are tokens. -/
theorem map_lexeme_tokens (line : Nat) (segs : List Segment) :
    (Scan.ofPlaced (place line segs)).tokens.map (fun t => t.lexeme.toList) =
      (segs.filter Segment.isToken).map Segment.text := by
  induction segs generalizing line with
  | nil => rfl
  | cons segment later ih =>
    by_cases token : segment.isToken = true
    · rcases tokens_cons_of_isToken token with ⟨symbol, contributes⟩
      rw [List.filter_cons_of_pos token, contributes, List.map_cons, List.map_cons,
        String.toList_ofList, ih]
    · rw [List.filter_cons_of_neg token, tokens_cons_of_not_isToken token, ih]

/-! ## Blanks between tokens -/

/-- The blank between two tokens. -/
def space : Segment :=
  ⟨[' '], .blank⟩

/-- A token stays one in front of the end. -/
theorem Lexeme.at_end {symbol : Symbol} {text rest : List Char}
    (lexeme : Lexeme (.token symbol) text rest) : Lexeme (.token symbol) text [] :=
  lexeme.replace_rest rfl nofun fun _ _ _ same => absurd same nofun

/-- A token stays one in front of a blank. -/
theorem Lexeme.before_space {symbol : Symbol} {text rest : List Char}
    (lexeme : Lexeme (.token symbol) text rest) (more : List Char) :
    Lexeme (.token symbol) text (' ' :: more) :=
  lexeme.exchange rfl (exchangeable_append [] rest more rfl nofun)

/-- Tokens with blanks between them are cut at the blanks. -/
theorem segments_spaced {segs : List Segment} (tokens : ∀ segment ∈ segs, segment.isToken = true)
    (lexemes : ∀ segment ∈ segs, ∃ rest, Lexeme segment.role segment.text rest) :
    segments ((segs.intersperse space).flatMap Segment.text) = segs.intersperse space := by
  induction segs with
  | nil => exact segments_nil
  | cons segment later ih =>
    rcases List.forall_mem_cons.1 tokens with ⟨token, tokensLater⟩
    rcases List.forall_mem_cons.1 lexemes with ⟨⟨rest, lexeme⟩, lexemesLater⟩
    rcases segment with ⟨text, role⟩
    rcases Segment.isToken_iff.1 token with ⟨symbol, rfl⟩
    cases later with
    | nil =>
      have alone := lexeme.at_end.segments_append
      rw [segments_nil] at alone
      exact alone
    | cons next later =>
      have behind := ih tokensLater lexemesLater
      have parted : Lexeme space.role space.text
          (((next :: later).intersperse space).flatMap Segment.text) := .blank (by simp)
      have first : Lexeme (.token symbol) text
          (space.text ++ ((next :: later).intersperse space).flatMap Segment.text) :=
        lexeme.before_space _
      rw [List.intersperse_cons_cons, List.flatMap_cons, List.flatMap_cons,
        first.segments_append, parted.segments_append, behind]

/-- Blanks between segments contribute nothing and break no line. -/
theorem ofPlaced_place_spaced (line : Nat) (segs : List Segment) :
    Scan.ofPlaced (place line (segs.intersperse space)) = Scan.ofPlaced (place line segs) := by
  induction segs generalizing line with
  | nil => rfl
  | cons segment later ih =>
    cases later with
    | nil => rfl
    | cons next later =>
      let ending := line + lineBreaks segment.text
      have first (behind : List Segment) : Scan.ofPlaced (place line (segment :: behind)) =
          Scan.ofPlaced [⟨segment, ending⟩] ++ Scan.ofPlaced (place ending behind) :=
        Scan.ofPlaced_append [_] _
      rw [List.intersperse_cons_cons, first, first (next :: later), ← ih]
      rfl

/-- Blanks between segments break no line. -/
theorem lineBreaks_spaced (segs : List Segment) :
    lineBreaks ((segs.intersperse space).flatMap Segment.text) =
      lineBreaks (segs.flatMap Segment.text) := by
  induction segs with
  | nil => rfl
  | cons segment later ih =>
    cases later with
    | nil => rfl
    | cons next later =>
      have noBreak : lineBreaks space.text = 0 := rfl
      rw [List.intersperse_cons_cons, List.flatMap_cons, List.flatMap_cons, List.flatMap_cons,
        lineBreaks_append, lineBreaks_append, lineBreaks_append, noBreak, ih, Nat.zero_add]

/-- The texts of segments, joined by blanks. -/
theorem flatMap_text_spaced (segs : List Segment) :
    (segs.intersperse space).flatMap Segment.text =
      [' '].intercalate (segs.map Segment.text) := by
  induction segs with
  | nil => rfl
  | cons segment later ih =>
    cases later with
    | nil => rfl
    | cons next later =>
      rw [List.intersperse_cons_cons, List.flatMap_cons, List.flatMap_cons, ih]
      exact (List.append_assoc _ _ _).symm.trans List.intercalate_cons_cons.symm

/-- Tokens report nothing. -/
theorem diagnostics_of_isToken {segs : List Segment}
    (tokens : ∀ segment ∈ segs, segment.isToken = true) (line : Nat) :
    (Scan.ofPlaced (place line segs)).diagnostics = [] := by
  refine List.filterMap_eq_nil_iff.2 fun placed member => ?_
  apply PlacedSegment.diagnostic?_of_isToken
  apply tokens
  rw [← map_segment_place line segs]
  exact List.mem_map_of_mem member

/-- A text of tokens with blanks between them is scanned to these tokens. -/
theorem scan_spaced {text : String} {segs : List Segment}
    (tokens : ∀ segment ∈ segs, segment.isToken = true)
    (lexemes : ∀ segment ∈ segs, ∃ rest, Lexeme segment.role segment.text rest)
    (joined : text.toList = [' '].intercalate (segs.map Segment.text)) :
    scan text = Scan.ofPlaced (place 1 segs) ++
      Scan.ending (endingLine (segs.flatMap Segment.text)) := by
  rw [← flatMap_text_spaced] at joined
  rw [scan_eq_ofPlaced, placedSegments, joined, segments_spaced tokens lexemes,
    ofPlaced_place_spaced, endingLine, lineBreaks_spaced, endingLine]

end Lexical

/-- The lexemes of a source, joined by blanks, are scanned to the tokens of the source without
a fault.  A token and the end of the input stand on the lines that the lexemes up to them
make up. -/
theorem scan_lexemes (source : String) :
    ∃ ts line, (scan source).tokens = ts ++ [Token.endOfInput line] ∧
      (scan (String.intercalate " " (ts.map Token.lexeme))).tokens =
        ts.mapIdx (fun i t =>
          { t with line := Lexical.endingLine (Token.lexemes (ts.take (i + 1))) }) ++
          [Token.endOfInput (Lexical.endingLine (Token.lexemes ts))] ∧
      (scan (String.intercalate " " (ts.map Token.lexeme))).diagnostics = [] ∧
      (scan (String.intercalate " " (ts.map Token.lexeme))).hadError = false := by
  let ts := (Scan.ofPlaced (Lexical.placedSegments source)).tokens
  let kept := (Lexical.segments source.toList).filter Lexical.Segment.isToken
  have tokens : ∀ segment ∈ kept, segment.isToken = true := fun segment member =>
    (List.mem_filter.1 member).2
  have lexemes : ∀ segment ∈ kept, ∃ rest, Lexical.Lexeme segment.role segment.text rest :=
    fun segment member => Lexical.exists_lexeme_of_mem_segments (List.mem_filter.1 member).1
  have texts : ts.map (fun t => t.lexeme.toList) = kept.map Lexical.Segment.text :=
    Lexical.map_lexeme_tokens 1 _
  have spelled : kept.flatMap Lexical.Segment.text = Token.lexemes ts := by
    rw [Token.lexemes, List.flatMap_def, List.flatMap_def, texts]
  have joined : (String.intercalate " " (ts.map Token.lexeme)).toList =
      [' '].intercalate (kept.map Lexical.Segment.text) := by
    rw [String.toList_intercalate, List.map_map, ← texts]
    rfl
  have parts : scan (String.intercalate " " (ts.map Token.lexeme)) =
      Scan.ofPlaced (Lexical.place 1 kept) ++
        Scan.ending (Lexical.endingLine (Token.lexemes ts)) := by
    rw [← spelled]
    exact Lexical.scan_spaced tokens lexemes joined
  have relined : (Scan.ofPlaced (Lexical.place 1 kept)).tokens = Token.reline [] ts :=
    Lexical.tokens_filter_isToken [] 1 _
  have quiet : (scan (String.intercalate " " (ts.map Token.lexeme))).diagnostics = [] := by
    rw [parts, Scan.append_def, Lexical.diagnostics_of_isToken tokens]
    rfl
  refine ⟨ts, Lexical.endingLine source.toList, tokens_scan source, ?_, quiet,
    (Scan.hadError_eq_false_iff _).2 quiet⟩
  rw [parts, Scan.append_def, relined]
  rfl

end LoxExpr
