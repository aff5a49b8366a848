import LoxExpr.Proofs.Lexical.Scanner

/-!
# Sources joined by a line break

A line break ends every lexeme where the end of the input ends it, unless the lexeme is still
to be closed.  So two sources with a line break between them are scanned one after the other,
and the second one only stands further down.

Main results:

- Theorem `Lexical.segments_append_lineFeed`: the segments of both sources stay what they are.
- Theorem `scan_append_lineFeed`: the tokens, the diagnostics and the flag of the joined
  source are those of the two sources.
-/

namespace LoxExpr

namespace Lexical

/-- The segments in front of a line break are those in front of the end of the input, and the
segments behind it are those of a source that starts there. -/
theorem segments_append_lineFeed {cs : List Char}
    (closed : ∀ segment ∈ segments cs, segment.role.isUnclosed = false) (ds : List Char) :
    segments (cs ++ '\n' :: ds) = segments cs ++ [⟨['\n'], .blank⟩] ++ segments ds := by
  have divided : Segmentation cs (segments cs ++ []) := by
    rw [List.append_nil]
    exact segmentation_segments cs
  have front := divided.append_blank closed rfl (fun _ _ _ _ => rfl) ds
  have lineFeed : Lexeme .blank ['\n'] ds := .blank (by simp)
  have behind : segments ('\n' :: ds) = ⟨['\n'], .blank⟩ :: segments ds :=
    lineFeed.segments_append
  rw [flatMap_text_segments, behind] at front
  rw [front, List.append_assoc]
  rfl

/-- What is never closed is reported with its message. -/
theorem exists_message_of_isUnclosed {source : String} {segment : Segment}
    (member : segment ∈ segments source.toList) (unclosed : segment.role.isUnclosed = true) :
    ∃ d ∈ (scan source).diagnostics,
      d.message = Fault.unterminatedString.message ∨
        d.message = Fault.unterminatedBlockComment.message := by
  rw [← map_segment_place 1 (segments source.toList)] at member
  rcases List.mem_map.1 member with ⟨placed, inside, rfl⟩
  have reported {fault : Fault} (is : placed.segment.role = .fault fault) :
      ⟨placed.line, .nowhere, fault.message⟩ ∈ (scan source).diagnostics := by
    refine List.mem_filterMap.2 ⟨placed, inside, ?_⟩
    simp [PlacedSegment.diagnostic?, PlacedSegment.fault?, is]
  cases role : placed.segment.role with
  | fault fault =>
    cases fault with
    | unexpectedCharacter c => simp [role, Role.isUnclosed] at unclosed
    | unterminatedString => exact ⟨_, reported role, .inl rfl⟩
    | unterminatedBlockComment => exact ⟨_, reported role, .inr rfl⟩
  | _ => simp [role, Role.isUnclosed] at unclosed

end Lexical

/-- What is scanned behind a line break moves down by it and by the line breaks in front. -/
theorem scan_lineFeed {first joined second : String}
    (divided : Lexical.segments joined.toList =
      Lexical.segments first.toList ++ [⟨['\n'], .blank⟩] ++ Lexical.segments second.toList) :
    scan joined = Scan.ofPlaced (Lexical.placedSegments first) ++
      (scan second).moveDown (1 + Lexical.lineBreaks first.toList) := by
  have whole := Lexical.flatMap_text_segments joined.toList
  rw [divided] at whole
  simp only [List.flatMap_append, Lexical.flatMap_text_segments, List.flatMap_cons,
    List.flatMap_nil, List.append_nil] at whole
  have lineFeed : Lexical.lineBreaks ['\n'] = 1 := rfl
  have last : Lexical.endingLine joined.toList =
      Lexical.endingLine second.toList + (1 + Lexical.lineBreaks first.toList) := by
    rw [← whole]
    simp only [Lexical.endingLine, Lexical.lineBreaks_append, lineFeed]
    omega
  have nothing : Scan.ofPlaced
      (Lexical.place (1 + Lexical.lineBreaks first.toList) [⟨['\n'], .blank⟩]) = ⟨[], []⟩ :=
    Scan.ofPlaced_place_of_isTrivia (by simp [Lexical.Role.isTrivia]) _
  have behind : Scan.ofPlaced (Lexical.place (1 + (1 + Lexical.lineBreaks first.toList))
        (Lexical.segments second.toList)) ++ Scan.ending (Lexical.endingLine joined.toList) =
      (scan second).moveDown (1 + Lexical.lineBreaks first.toList) := by
    rw [scan_eq_ofPlaced, Scan.moveDown_append, last, Scan.ofPlaced_place_add]
    rfl
  have placed : Lexical.placedSegments joined = Lexical.placedSegments first ++
      Lexical.place (1 + Lexical.lineBreaks first.toList) [⟨['\n'], .blank⟩] ++
      Lexical.place (1 + (1 + Lexical.lineBreaks first.toList))
        (Lexical.segments second.toList) := by
    rw [Lexical.placedSegments, divided, Lexical.place_append, Lexical.place_append,
      List.flatMap_append, Lexical.lineBreaks_append, Lexical.flatMap_text_segments,
      Lexical.placedSegments, Nat.add_comm (Lexical.lineBreaks first.toList)]
    rfl
  rw [scan_eq_ofPlaced joined, placed, Scan.ofPlaced_append, Scan.ofPlaced_append, nothing,
    Scan.append_assoc, behind]
  simp [Scan.append_def]

/-- A source that leaves nothing unclosed and another one behind a line break are scanned one
after the other.  The second one stands further down by the line breaks in front of it, and
the joined source has an error if one of them has.  This is also what a scanner has kept in
its flag. -/
theorem scan_append_lineFeed {first : String}
    (closed : ∀ d ∈ (scan first).diagnostics,
      d.message ≠ Lexical.Fault.unterminatedString.message ∧
        d.message ≠ Lexical.Fault.unterminatedBlockComment.message)
    (second : String) :
    let joined := first ++ "\n" ++ second
    let shift := 1 + Lexical.lineBreaks first.toList
    (scan joined).tokens =
      (scan first).tokens.dropLast ++ (scan second).tokens.map (Token.moveDown shift) ∧
    (scan joined).diagnostics =
      (scan first).diagnostics ++ (scan second).diagnostics.map (Diagnostic.moveDown shift) ∧
    (scan joined).hadError = ((scan first).hadError || (scan second).hadError) ∧
    ∀ sink, (Scanner.startAfter sink joined).run.hadError =
      ((Scanner.startAfter sink first).run.hadError ||
        (Scanner.startAfter sink second).run.hadError) := by
  intro joined shift
  have roles (segment) (member : segment ∈ Lexical.segments first.toList) :
      segment.role.isUnclosed = false := by
    apply Bool.eq_false_iff.2
    intro unclosed
    rcases Lexical.exists_message_of_isUnclosed member unclosed with ⟨d, told, message⟩
    rcases closed d told with ⟨noString, noComment⟩
    exact message.elim noString noComment
  have divided : Lexical.segments joined.toList =
      Lexical.segments first.toList ++ [⟨['\n'], .blank⟩] ++ Lexical.segments second.toList := by
    rw [← Lexical.segments_append_lineFeed roles]
    simp [joined]
  have parts : scan joined = Scan.ofPlaced (Lexical.placedSegments first) ++
      (scan second).moveDown shift := scan_lineFeed divided
  have alone := scan_eq_ofPlaced first
  have flag : (scan joined).hadError = ((scan first).hadError || (scan second).hadError) := by
    rw [parts, alone, Scan.hadError_append, Scan.hadError_append, Scan.hadError_moveDown]
    simp [Scan.ending, Scan.hadError]
  refine ⟨?_, ?_, flag, fun sink => ?_⟩
  · rw [parts, alone]
    simp [Scan.append_def, Scan.ending, Scan.moveDown]
  · rw [parts, alone]
    simp [Scan.append_def, Scan.ending, Scan.moveDown]
  · rw [Scanner.run_startAfter, Scanner.run_startAfter, Scanner.run_startAfter]
    exact flag

/-- A stray character and an exclamation mark, with an equals sign on the next line. -/
theorem scan_append_lineFeed_marks :
    (∀ d ∈ (scan "@\n!").diagnostics,
      d.message ≠ Lexical.Fault.unterminatedString.message ∧
        d.message ≠ Lexical.Fault.unterminatedBlockComment.message) ∧
    (scan "@\n!\n=1").tokens =
      [⟨.mark .bang, "!", 2⟩] ++ (scan "=1").tokens.map (Token.moveDown 2) ∧
    (scan "@\n!\n=1").diagnostics = [⟨1, .nowhere, "Unexpected character."⟩] ∧
    (scan "@\n!\n=1").hadError = true := by
  have reported : (scan "@\n!").diagnostics = [⟨1, .nowhere, "Unexpected character."⟩] := by
    decide +kernel
  have tokens : (scan "@\n!").tokens = [⟨.mark .bang, "!", 2⟩, Token.endOfInput 2] := by
    decide +kernel
  have hreported : (scan "=1").diagnostics = [] := by decide +kernel
  have closed : ∀ d ∈ (scan "@\n!").diagnostics,
      d.message ≠ Lexical.Fault.unterminatedString.message ∧
        d.message ≠ Lexical.Fault.unterminatedBlockComment.message := by
    rw [reported]
    decide
  have lines : 1 + Lexical.lineBreaks "@\n!".toList = 2 := by decide +kernel
  have parts := scan_append_lineFeed closed "=1"
  simp only [lines, tokens, reported, hreported, Scan.hadError] at parts
  exact ⟨closed, parts.1, parts.2.1, parts.2.2.1⟩

end LoxExpr
