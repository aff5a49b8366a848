import LoxExpr.Proofs.Lexical.Segmentation
import Mathlib.Data.List.Basic

/-!
# Lines

A scan counts lines while it cuts a source into segments.  This module compares the count
with the source itself: the line of a token is found by counting the line breaks of the
source up to the end of the token, whatever the segments in front of it are.

Main results:

- Theorem `place_eq_map_standings`: a segment is placed on the line on which the source
  ends if it is cut off behind the segment.
- Theorem `exists_lexeme_of_mem_standings`: what stands in front of a segment, the segment
  and the rest make up the source.
- Theorem `scan_lines`: the lines of the tokens, of the faults and of the end of the input
  are those of their places in the source, and they never decrease.
-/

namespace LoxExpr

namespace Lexical

/-! ## Standing places -/

/-- A segment with all that stands in front of it. -/
structure Standing where
  before : List Char
  segment : Segment

/-- The segments behind a text, each with all that stands in front of it. -/
def standings (before : List Char) : List Segment → List Standing
  | [] => []
  | segment :: later => ⟨before, segment⟩ :: standings (before ++ segment.text) later

/-- The line on which a text ends. -/
def endingLine (text : List Char) : Nat :=
  1 + lineBreaks text

/-- The line breaks of two texts are those of the one and those of the other. -/
theorem lineBreaks_append (xs ys : List Char) :
    lineBreaks (xs ++ ys) = lineBreaks xs + lineBreaks ys :=
  List.count_append

/-- A text behind another one ends as many lines further down as it has line breaks. -/
theorem endingLine_append (before text : List Char) :
    endingLine (before ++ text) = endingLine before + lineBreaks text := by
  rw [endingLine, lineBreaks_append, ← Nat.add_assoc, endingLine]

namespace Standing

/-- The token that a segment contributes, on the line on which its text ends. -/
def token? (s : Standing) : Option Token :=
  match s.segment.role with
  | .token symbol =>
    some ⟨symbol, String.ofList s.segment.text, endingLine (s.before ++ s.segment.text)⟩
  | _ => none

/-- The diagnostic about a fault in a source.  A stray character is reported on its own
line, and what is never closed on the last line of the source. -/
def diagnostic? (source : List Char) (s : Standing) : Option Diagnostic :=
  match s.segment.role with
  | .fault (.unexpectedCharacter c) =>
    some ⟨endingLine s.before, .nowhere, (Fault.unexpectedCharacter c).message⟩
  | .fault fault => some ⟨endingLine source, .nowhere, fault.message⟩
  | _ => none

end Standing

/-- A segment is placed on the line on which the text up to its end ends. -/
theorem place_eq_map_standings (before : List Char) (segs : List Segment) :
    place (endingLine before) segs =
      (standings before segs).map fun s =>
        ⟨s.segment, endingLine (s.before ++ s.segment.text)⟩ := by
  induction segs generalizing before with
  | nil => rfl
  | cons segment later ih =>
    simp only [place, standings, List.map_cons, ← endingLine_append, ih]

/-- A segment stands behind the text and the earlier segments. -/
theorem exists_append_of_mem_standings {before : List Char} {segs : List Segment} {s : Standing}
    (member : s ∈ standings before segs) :
    ∃ earlier later, segs = earlier ++ s.segment :: later ∧
      s.before = before ++ earlier.flatMap Segment.text := by
  induction segs generalizing before with
  | nil => simp [standings] at member
  | cons segment later ih =>
    rcases List.mem_cons.1 member with rfl | behind
    · exact ⟨[], later, rfl, (List.append_nil _).symm⟩
    · rcases ih behind with ⟨earlier, rest, rfl, same⟩
      exact ⟨segment :: earlier, rest, rfl, by simp [same]⟩

/-- What stands in front of a segment, the segment and the rest make up the source. -/
theorem exists_lexeme_of_mem_standings {cs : List Char} {s : Standing}
    (member : s ∈ standings [] (segments cs)) :
    ∃ rest, s.before ++ s.segment.text ++ rest = cs ∧
      Lexeme s.segment.role s.segment.text rest := by
  rcases exists_append_of_mem_standings member with ⟨earlier, later, divided, before⟩
  have segmentation := segmentation_segments cs
  refine ⟨later.flatMap Segment.text, ?_, segmentation.lexemes _ _ _ divided⟩
  have whole := segmentation.whole
  rw [divided] at whole
  simpa [before] using whole

/-- A fault is reported on the line of a stray character, or else on the last line. -/
theorem diagnostic?_of_mem_standings {cs : List Char} {s : Standing}
    (member : s ∈ standings [] (segments cs)) :
    PlacedSegment.diagnostic? ⟨s.segment, endingLine (s.before ++ s.segment.text)⟩ =
      s.diagnostic? cs := by
  rcases s with ⟨before, text, role⟩
  rcases exists_lexeme_of_mem_standings member with ⟨rest, rfl, lexeme⟩
  simp only at lexeme
  cases lexeme with
  | @unexpectedCharacter c _ notListed =>
    have noBreak : lineBreaks [c] = 0 :=
      List.count_eq_zero.2 fun same => notListed (by simp [← List.mem_singleton.1 same])
    have ending : endingLine (before ++ [c]) = endingLine before := by
      rw [endingLine_append, noBreak, Nat.add_zero]
    simp only [PlacedSegment.diagnostic?, PlacedSegment.fault?, Standing.diagnostic?,
      Option.map_some, ending]
  | unterminatedString | unterminatedBlockComment =>
    -- Nothing follows what is never closed, so its end is the end of the source.
    simp only [PlacedSegment.diagnostic?, PlacedSegment.fault?, Standing.diagnostic?,
      Option.map_some, List.append_nil]
  | _ => rfl

/-! ## The order of the lines -/

/-- Segments are placed between the first line and the last one. -/
theorem line_of_mem_place {line : Nat} {segs : List Segment} {placed : PlacedSegment}
    (member : placed ∈ place line segs) :
    line ≤ placed.line ∧ placed.line ≤ line + lineBreaks (segs.flatMap Segment.text) := by
  induction segs generalizing line with
  | nil => simp [place] at member
  | cons segment later ih =>
    rw [List.flatMap_cons, lineBreaks_append]
    rcases List.mem_cons.1 member with rfl | behind
    · exact ⟨Nat.le_add_right _ _, by simp only; omega⟩
    · have bounds := ih behind
      omega

/-- Later segments are placed on later lines. -/
theorem pairwise_place (line : Nat) (segs : List Segment) :
    (place line segs).Pairwise (fun first second => first.line ≤ second.line) := by
  induction segs generalizing line with
  | nil => exact .nil
  | cons segment later ih => exact .cons (fun _ behind => (line_of_mem_place behind).1) (ih _)

/-- A token stands on the line of its segment. -/
theorem PlacedSegment.line_of_token? {placed : PlacedSegment} {t : Token}
    (h : placed.token? = some t) : t.line = placed.line := by
  unfold token? at h
  split at h
  · rw [← Option.some.inj h]
  · contradiction

/-- A diagnostic names the line of its segment. -/
theorem PlacedSegment.line_of_diagnostic? {placed : PlacedSegment} {d : Diagnostic}
    (h : placed.diagnostic? = some d) : d.line = placed.line := by
  rcases Option.map_eq_some_iff.1 h with ⟨fault, _, rfl⟩
  rfl

/-- What the segments of a source contribute, if it keeps their lines, is in their order
and between the first line and the last one. -/
theorem ordered_filterMap {α : Type} {read : PlacedSegment → Option α} {line : α → Nat}
    (keeps : ∀ {placed a}, read placed = some a → line a = placed.line) (source : String) :
    ((placedSegments source).filterMap read).Pairwise (fun a b => line a ≤ line b) ∧
      ∀ a ∈ (placedSegments source).filterMap read,
        1 ≤ line a ∧ line a ≤ endingLine source.toList := by
  constructor
  · refine List.pairwise_filterMap.2 ((pairwise_place 1 _).imp fun ordered a first b second => ?_)
    rwa [keeps first, keeps second]
  · intro a member
    rcases List.mem_filterMap.1 member with ⟨placed, inside, found⟩
    have bounds := line_of_mem_place inside
    rw [flatMap_text_segments] at bounds
    rwa [keeps found]

end Lexical

/-- The input ends on the line on which the source ends. -/
theorem tokens_scan (source : String) :
    (scan source).tokens =
      (Lexical.placedSegments source).filterMap Lexical.PlacedSegment.token? ++
        [Token.endOfInput (Lexical.endingLine source.toList)] := by
  have ending := Lexical.lastLine_place 1 (Lexical.segments source.toList)
  rw [Lexical.flatMap_text_segments] at ending
  exact congrArg (fun line => _ ++ [Token.endOfInput line]) ending

/-- The lines of a scan are those of the source.  Segments stand one behind the other in
it.  A token is on the line on which its text ends, a stray character is reported on its own
line, and the end of the input and what is never closed are on the last line.  The lines of
the tokens and those of the diagnostics start at one and never decrease. -/
theorem scan_lines (source : String) :
    let standings := Lexical.standings [] (Lexical.segments source.toList)
    (∀ s ∈ standings, s.before ++ s.segment.text <+: source.toList) ∧
    (∀ s ∈ standings, ∀ c, s.segment.role = .fault (.unexpectedCharacter c) →
      s.segment.text = [c]) ∧
    (scan source).tokens =
      standings.filterMap Lexical.Standing.token? ++
        [Token.endOfInput (Lexical.endingLine source.toList)] ∧
    (scan source).diagnostics =
      standings.filterMap (Lexical.Standing.diagnostic? source.toList) ∧
    ((scan source).tokens.map Token.line).Pairwise (· ≤ ·) ∧
    (∀ t ∈ (scan source).tokens, 1 ≤ t.line) ∧
    ((scan source).diagnostics.map Diagnostic.line).Pairwise (· ≤ ·) ∧
    ∀ d ∈ (scan source).diagnostics, 1 ≤ d.line := by
  intro standings
  have placed : Lexical.placedSegments source = standings.map fun s =>
      ⟨s.segment, Lexical.endingLine (s.before ++ s.segment.text)⟩ :=
    Lexical.place_eq_map_standings [] _
  have tokens := Lexical.ordered_filterMap Lexical.PlacedSegment.line_of_token? source
  have diagnostics := Lexical.ordered_filterMap Lexical.PlacedSegment.line_of_diagnostic? source
  refine ⟨fun s member => ?_, fun s member c stray => ?_, ?_, ?_, ?_, ?_, ?_, ?_⟩
  · rcases Lexical.exists_lexeme_of_mem_standings member with ⟨rest, whole, _⟩
    exact ⟨rest, whole⟩
  · rcases s with ⟨before, text, role⟩
    rcases Lexical.exists_lexeme_of_mem_standings member with ⟨rest, _, lexeme⟩
    simp only at stray lexeme
    subst stray
    cases lexeme
    rfl
  · rw [tokens_scan, placed, List.filterMap_map]
    rfl
  · have reported : (scan source).diagnostics =
        (Lexical.placedSegments source).filterMap Lexical.PlacedSegment.diagnostic? := rfl
    rw [reported, placed, List.filterMap_map]
    exact List.filterMap_congr fun s member => Lexical.diagnostic?_of_mem_standings member
  · rw [tokens_scan, List.pairwise_map, List.pairwise_append]
    refine ⟨tokens.1, List.pairwise_singleton _ _, fun t member ending last => ?_⟩
    rw [List.mem_singleton.1 last]
    exact (tokens.2 t member).2
  · intro t member
    rw [tokens_scan] at member
    rcases List.mem_append.1 member with inside | last
    · exact (tokens.2 t inside).1
    · rw [List.mem_singleton.1 last]
      exact Nat.le_add_right 1 _
  · exact List.pairwise_map.2 diagnostics.1
  · exact fun d member => (diagnostics.2 d member).1

end LoxExpr
