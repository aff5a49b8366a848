import LoxExpr.Lexical.Scan
import LoxExpr.Proofs.Lexical.Lexeme

/-!
# Division of a source into lexemes

A scan cuts a source into lexemes, one after the other, and the lexical grammar leaves no
choice: there is one division of a source into lexemes only.  The tokens and diagnostics
of a scan are read off that division.

Main results:

- Theorem `segmentation_cons`: a division is a lexeme and a division of what follows it.
- Theorem `segmentation_iff`: the segments are the division of a source into lexemes.
- Theorem `scan_segmentation`: every source has exactly one division into lexemes, none
  of them is empty, and a scan returns its tokens and reports its faults.
-/

namespace LoxExpr

namespace Lexical

/-! ## Divisions -/

/-- A division of a source into segments that are lexemes, each in front of the later
ones. -/
structure Segmentation (cs : List Char) (segs : List Segment) : Prop where
  whole : segs.flatMap Segment.text = cs
  lexemes : ∀ earlier segment later, segs = earlier ++ segment :: later →
    Lexeme segment.role segment.text (later.flatMap Segment.text)

/-- Only an empty source has a division without segments. -/
theorem segmentation_nil {cs : List Char} : Segmentation cs [] ↔ cs = [] := by
  constructor
  · intro divided
    exact divided.whole.symm
  · intro equal
    subst equal
    exact ⟨rfl, fun earlier segment later same => by simp at same⟩

/-- A division is a lexeme and a division of what follows it. -/
theorem segmentation_cons {cs : List Char} {segment : Segment} {later : List Segment} :
    Segmentation cs (segment :: later) ↔
      ∃ rest, segment.text ++ rest = cs ∧ Lexeme segment.role segment.text rest ∧
        Segmentation rest later := by
  constructor
  · intro parts
    rcases parts with ⟨whole, lexemes⟩
    refine ⟨later.flatMap Segment.text, whole, lexemes [] segment later rfl, rfl, ?_⟩
    intro earlier other behind same
    exact lexemes (segment :: earlier) other behind (by rw [same]; rfl)
  · intro parts
    rcases parts with ⟨rest, rfl, lexeme, rfl, lexemes⟩
    refine ⟨rfl, fun earlier other behind same => ?_⟩
    rcases List.cons_eq_append_iff.1 same with ⟨rfl, here⟩ | ⟨between, rfl, there⟩
    · rcases List.cons.inj here with ⟨rfl, rfl⟩
      exact lexeme
    · exact lexemes between other behind there

/-- The segments of a source are a division of it into lexemes. -/
theorem segmentation_segments (cs : List Char) : Segmentation cs (segments cs) := by
  fun_induction segments cs with
  | case1 => exact segmentation_nil.2 rfl
  | case2 c cs ih =>
    have whole : c :: (cut c cs).tail ++ (cut c cs).rest = c :: cs := by
      rw [List.cons_append, cut_append]
    exact segmentation_cons.2 ⟨(cut c cs).rest, whole, lexeme_cut c cs, ih⟩

/-- Every segment of a source is a lexeme. -/
theorem exists_lexeme_of_mem_segments {cs : List Char} {segment : Segment}
    (member : segment ∈ segments cs) : ∃ rest, Lexeme segment.role segment.text rest := by
  rcases List.append_of_mem member with ⟨earlier, later, divided⟩
  exact ⟨_, (segmentation_segments cs).lexemes _ _ _ divided⟩

/-- A division of a source into lexemes consists of its segments. -/
theorem Segmentation.segments_eq {cs : List Char} {segs : List Segment}
    (divided : Segmentation cs segs) : segments cs = segs := by
  induction segs generalizing cs with
  | nil =>
    rw [segmentation_nil.1 divided]
    exact segments_nil
  | cons segment later ih =>
    rcases segmentation_cons.1 divided with ⟨rest, rfl, lexeme, remains⟩
    rcases segment with ⟨text, role⟩
    rcases lexeme.cut_eq with ⟨c, tail, rfl, taken⟩
    have first : segments (c :: (tail ++ rest)) = ⟨c :: tail, role⟩ :: segments rest := by
      rw [segments_cons, taken]
    rw [ih remains] at first
    exact first

/-- The segments are the only division of a source into lexemes. -/
theorem segmentation_iff {cs : List Char} {segs : List Segment} :
    Segmentation cs segs ↔ segs = segments cs := by
  constructor
  · intro divided
    exact divided.segments_eq.symm
  · intro equal
    subst equal
    exact segmentation_segments cs

/-! ## Faults -/

/-- A placed segment reports something exactly if it is a fault. -/
theorem diagnostic?_isSome_iff {placed : PlacedSegment} :
    placed.diagnostic?.isSome = true ↔ ∃ fault, placed.segment.role = .fault fault := by
  rcases placed with ⟨⟨text, role⟩, line⟩
  cases role <;> simp [PlacedSegment.diagnostic?, PlacedSegment.fault?]

/-- The segments are placed as they are. -/
theorem map_segment_place (line : Nat) (segs : List Segment) :
    (place line segs).map PlacedSegment.segment = segs := by
  induction segs generalizing line with
  | nil => rfl
  | cons segment later ih => simp [place, ih]

end Lexical

/-- A scan has an error exactly if one of the segments is a fault. -/
theorem hadError_scan_iff (source : String) :
    (scan source).hadError = true ↔
      ∃ segment ∈ Lexical.segments source.toList, ∃ fault, segment.role = .fault fault := by
  have reported : (scan source).hadError = true ↔
      ∃ placed ∈ Lexical.placedSegments source, placed.diagnostic?.isSome = true := by
    simp [Scan.hadError, scan, Option.isSome_iff_ne_none]
  have placed := Lexical.map_segment_place 1 (Lexical.segments source.toList)
  rw [reported, ← placed]
  constructor
  · intro parts
    rcases parts with ⟨found, member, fault⟩
    exact ⟨found.segment, List.mem_map_of_mem member, Lexical.diagnostic?_isSome_iff.1 fault⟩
  · intro parts
    rcases parts with ⟨_, member, fault⟩
    rcases List.mem_map.1 member with ⟨found, inside, rfl⟩
    exact ⟨found, inside, Lexical.diagnostic?_isSome_iff.2 fault⟩

/-- Every source has exactly one division into lexemes, and none of these is empty.  A
scan returns the tokens among them and an end of input behind the last line break, reports
their faults, and has an error if there is a fault. -/
theorem scan_segmentation (source : String) :
    ∃ segs : List Lexical.Segment,
      (∀ others, Lexical.Segmentation source.toList others ↔ others = segs) ∧
      (∀ segment ∈ segs, segment.text ≠ []) ∧
      (scan source).tokens =
        (Lexical.place 1 segs).filterMap Lexical.PlacedSegment.token? ++
          [Token.endOfInput (1 + Lexical.lineBreaks source.toList)] ∧
      (scan source).diagnostics =
        (Lexical.place 1 segs).filterMap Lexical.PlacedSegment.diagnostic? ∧
      ((scan source).hadError = true ↔
        ∃ segment ∈ segs, ∃ fault, segment.role = .fault fault) := by
  refine ⟨Lexical.segments source.toList, fun _ => Lexical.segmentation_iff,
    fun _ => Lexical.text_ne_nil_of_mem_segments, ?_, rfl, hadError_scan_iff source⟩
  have ending := Lexical.lastLine_place 1 (Lexical.segments source.toList)
  rw [Lexical.flatMap_text_segments] at ending
  unfold scan Lexical.placedSegments
  simp only
  rw [ending]

end LoxExpr
