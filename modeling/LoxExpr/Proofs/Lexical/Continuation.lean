import LoxExpr.Proofs.Lexical.Layout

/-!
# Sources that go on

More text behind a source changes what was scanned at its end only.  The last segment may grow,
or close, and a numeral in front of a point as the last segment may get decimals.  Every other
segment ends where it did, since what decided about its end was there already.

Main results:

- Theorem `Lexeme.append`: a lexeme stays one if the text behind it goes on.
- Theorem `Segmentation.prefix_append`: the segments in front of the end are those in front of
  the end of a longer source.
- Theorem `scan_append`: all segments but the last two keep their places, their lines, and
  their tokens or diagnostics, and so does the last but one, if it is no numeral that a point
  at the end can go on with.
-/

namespace LoxExpr

namespace Lexical

/-! ## Lexemes in front of more text -/

/-- A lexeme stays one if the text behind it goes on, unless that text can become its
decimals. -/
theorem Lexeme.append {role : Role} {text rest : List Char} (lexeme : Lexeme role text rest)
    (nonempty : rest ≠ []) (settled : IsWhole role text → rest ≠ ['.']) (more : List Char) :
    Lexeme role text (rest ++ more) := by
  have closed : role.isUnclosed = false := by
    apply Bool.eq_false_iff.2
    intro unclosed
    exact nonempty (lexeme.rest_eq_nil unclosed)
  rcases List.exists_cons_of_ne_nil nonempty with ⟨c, behind, rfl⟩
  refine lexeme.replace_rest closed (fun d first => .inl first) fun whole d later same _ => ?_
  -- Two characters decide, and both of them stand in front of what is new.
  cases behind with
  | nil =>
    obtain rfl : c = '.' := (List.cons.inj same).1
    exact absurd rfl (settled whole)
  | cons e behind =>
    obtain ⟨rfl, there⟩ := List.cons.inj same
    obtain rfl : e = d := (List.cons.inj there).1
    exact ⟨behind, rfl⟩

/-! ## Segments in front of more text -/

/-- Every segment takes up room. -/
theorem Segmentation.length_le {cs : List Char} {segs : List Segment}
    (divided : Segmentation cs segs) : segs.length ≤ cs.length := by
  induction segs generalizing cs with
  | nil => exact Nat.zero_le _
  | cons segment later ih =>
    have nonempty := List.length_pos_iff.2 (divided.text_ne_nil List.mem_cons_self)
    rcases segmentation_cons.1 divided with ⟨rest, rfl, _, remains⟩
    have behind := ih remains
    rw [List.length_append, List.length_cons]
    omega

/-- The segments in front of the end of a source are those of a longer source, if the last of
them is no numeral in front of a point. -/
theorem Segmentation.prefix_append {cs : List Char} {earlier later : List Segment}
    (divided : Segmentation cs (earlier ++ later)) (nonempty : later ≠ [])
    (settled : ∀ front segment, earlier = front ++ [segment] →
      IsWhole segment.role segment.text → later.flatMap Segment.text ≠ ['.'])
    (more : List Char) : earlier <+: segments (cs ++ more) := by
  induction earlier generalizing cs with
  | nil => exact List.nil_prefix
  | cons segment earlier ih =>
    obtain ⟨rest, rfl, lexeme, (remains : Segmentation rest (earlier ++ later))⟩ :=
      segmentation_cons.1 divided
    have lengths := remains.length_le
    have further := List.length_pos_iff.2 nonempty
    rw [List.length_append] at lengths
    have stays : Lexeme segment.role segment.text (rest ++ more) := by
      refine lexeme.append (List.length_pos_iff.1 (by omega)) (fun whole point => ?_) more
      -- There is room for one segment only in front of the end, so `segment` is the last one.
      rw [point, List.length_singleton] at lengths
      obtain rfl : earlier = [] := List.length_eq_zero_iff.1 (by omega)
      exact settled [] segment rfl whole (remains.whole.trans point)
    have behind := ih remains fun front last same =>
      settled (segment :: front) last (by simp [same])
    rw [List.append_assoc, stays.segments_append]
    exact (List.prefix_cons_inj segment).2 behind

/-- Whether a division ends with a numeral without decimals and a point. -/
def EndsInPoint (segs : List Segment) : Prop :=
  ∃ front numeral point, segs = front ++ [numeral, point] ∧
    IsWhole numeral.role numeral.text ∧ point.text = ['.']

/-- All segments but the last one are those of a longer source, if they do not end with a
numeral and a point. -/
theorem Segmentation.dropLast_prefix {cs : List Char} {segs : List Segment}
    (divided : Segmentation cs segs) (settled : ¬EndsInPoint segs) (more : List Char) :
    segs.dropLast <+: segments (cs ++ more) := by
  rcases List.eq_nil_or_concat' segs with rfl | ⟨kept, last, rfl⟩
  · exact List.nil_prefix
  · rw [List.dropLast_concat]
    refine divided.prefix_append (List.cons_ne_nil _ _) ?_ more
    rintro front numeral rfl whole point
    exact settled ⟨front, numeral, last, by simp, whole, by simpa using point⟩

/-- All segments but the last two are those of a longer source. -/
theorem Segmentation.dropLast_dropLast_prefix {cs : List Char} {segs : List Segment}
    (divided : Segmentation cs segs) (more : List Char) :
    segs.dropLast.dropLast <+: segments (cs ++ more) := by
  rcases List.eq_nil_or_concat' segs with rfl | ⟨front, last, rfl⟩
  · exact List.nil_prefix
  rw [List.dropLast_concat]
  rcases List.eq_nil_or_concat' front with rfl | ⟨kept, next, rfl⟩
  · exact List.nil_prefix
  rw [List.append_assoc] at divided
  rw [List.dropLast_concat]
  refine divided.prefix_append (List.cons_ne_nil _ _) (fun _ _ _ _ point => ?_) more
  -- Two segments have two characters at least.
  have lengths := divided.drop.length_le
  rw [point] at lengths
  contradiction

/-! ## What is kept -/

/-- Whether a source begins with given segments: they are the first of its segments, stand in
the same places and on the same lines, and contribute the first of its tokens and
diagnostics. -/
structure BeginsWith (source : String) (segs : List Segment) : Prop where
  standings : standings [] segs <+: standings [] (segments source.toList)
  placed : place 1 segs <+: placedSegments source
  tokens : (Scan.ofPlaced (place 1 segs)).tokens <+: (scan source).tokens
  diagnostics : (Scan.ofPlaced (place 1 segs)).diagnostics <+: (scan source).diagnostics

/-- The places of the first segments do not depend on the later ones. -/
theorem standings_append (before : List Char) (earlier later : List Segment) :
    standings before (earlier ++ later) =
      standings before earlier ++ standings (before ++ earlier.flatMap Segment.text) later := by
  induction earlier generalizing before with
  | nil => simp [standings]
  | cons segment earlier ih => simp [standings, ih]

/-- A source begins with the first of its segments. -/
theorem beginsWith_of_prefix {source : String} {segs : List Segment}
    (first : segs <+: segments source.toList) : BeginsWith source segs := by
  rcases first with ⟨later, whole⟩
  have placed : placedSegments source = place 1 segs ++
      place (1 + lineBreaks (segs.flatMap Segment.text)) later := by
    rw [placedSegments, ← whole, place_append]
  constructor
  · rw [← whole, standings_append]
    exact List.prefix_append _ _
  · rw [placed]
    exact List.prefix_append _ _
  · rw [scan_eq_ofPlaced, placed, Scan.ofPlaced_append, Scan.append_assoc]
    exact List.prefix_append _ _
  · rw [scan_eq_ofPlaced, placed, Scan.ofPlaced_append, Scan.append_assoc]
    exact List.prefix_append _ _

end Lexical

/-- More text behind a source changes what was scanned at its end only.  Both sources begin
with all segments of the first one but the last two: in the same places, on the same lines,
and with the same tokens or diagnostics.  They also begin with the last but one, unless it is
a numeral without decimals in front of a point. -/
theorem scan_append (first more : String) :
    (Lexical.BeginsWith first (Lexical.segments first.toList).dropLast.dropLast ∧
      Lexical.BeginsWith (first ++ more) (Lexical.segments first.toList).dropLast.dropLast) ∧
    (¬Lexical.EndsInPoint (Lexical.segments first.toList) →
      Lexical.BeginsWith first (Lexical.segments first.toList).dropLast ∧
        Lexical.BeginsWith (first ++ more) (Lexical.segments first.toList).dropLast) := by
  have divided := Lexical.segmentation_segments first.toList
  have here := List.dropLast_prefix (Lexical.segments first.toList)
  refine ⟨⟨?_, ?_⟩, fun settled => ⟨?_, ?_⟩⟩
  · exact Lexical.beginsWith_of_prefix ((List.dropLast_prefix _).trans here)
  · apply Lexical.beginsWith_of_prefix
    rw [String.toList_append]
    exact divided.dropLast_dropLast_prefix _
  · exact Lexical.beginsWith_of_prefix here
  · apply Lexical.beginsWith_of_prefix
    rw [String.toList_append]
    exact divided.dropLast_prefix settled _

/-- A numeral in front of a point gets decimals when a digit follows. -/
example : ¬(Lexical.segments "1.".toList).dropLast <+: Lexical.segments "1.5".toList := by
  decide +kernel

end LoxExpr
