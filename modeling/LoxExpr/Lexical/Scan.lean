import LoxExpr.Lexical.Segment
import LoxExpr.Token.Basic

/-!
# Scans

A scan places the segments of a source on lines, reads off the tokens and the
diagnostics, and closes the tokens with an end of input.  A segment counts as
standing on the line on which it ends.

Main results:

- Theorem `Lexical.place_append`: later segments start on the line on which the
  earlier ones end.
- Theorem `Lexical.lastLine_place`: the last segment ends after all the line
  breaks.
- Theorem `Scan.hadError_eq_false_iff`: a scan has no error exactly when it
  reports nothing.
-/

namespace LoxExpr

namespace Lexical

/-! ## Lines -/

/-- The number of line breaks in a text. -/
def lineBreaks (text : List Char) : Nat :=
  text.count '\n'

/-- A segment and the line on which it ends. -/
structure PlacedSegment where
  segment : Segment
  line : Nat
deriving DecidableEq

/-- Places segments on lines, the first one starting on a given line. -/
def place (line : Nat) : List Segment → List PlacedSegment
  | [] => []
  | segment :: later =>
    let ending := line + lineBreaks segment.text
    ⟨segment, ending⟩ :: place ending later

/-- The line on which the last of placed segments ends, if the first starts on a
given line. -/
def lastLine (line : Nat) (placed : List PlacedSegment) : Nat :=
  (placed.getLast?.map PlacedSegment.line).getD line

/-- The last segment ends after all the line breaks. -/
theorem lastLine_place (line : Nat) (segments : List Segment) :
    lastLine line (place line segments) =
      line + lineBreaks (segments.flatMap Segment.text) := by
  induction segments generalizing line with
  | nil => rfl
  | cons segment later ih =>
    have step : lastLine line (place line (segment :: later)) =
        lastLine (line + lineBreaks segment.text)
          (place (line + lineBreaks segment.text) later) := by
      simp only [place, lastLine, List.getLast?_cons]
      cases (place (line + lineBreaks segment.text) later).getLast? <;> rfl
    rw [step, ih, List.flatMap_cons]
    simp only [lineBreaks, List.count_append]
    omega

/-- Later segments start on the line on which the earlier ones end. -/
theorem place_append (line : Nat) (earlier later : List Segment) :
    place line (earlier ++ later) =
      place line earlier ++
        place (line + lineBreaks (earlier.flatMap Segment.text)) later := by
  induction earlier generalizing line with
  | nil => rfl
  | cons segment earlier ih =>
    simp only [List.cons_append, place, ih, List.flatMap_cons, lineBreaks, List.count_append]
    rw [Nat.add_assoc]

namespace PlacedSegment

/-- The token that a segment contributes. -/
def token? (placed : PlacedSegment) : Option Token :=
  match placed.segment.role with
  | .token symbol => some ⟨symbol, String.ofList placed.segment.text, placed.line⟩
  | _ => none

/-- The fault that a segment consists of. -/
def fault? (placed : PlacedSegment) : Option Fault :=
  match placed.segment.role with
  | .fault fault => some fault
  | _ => none

/-- The diagnostic that a segment contributes. -/
def diagnostic? (placed : PlacedSegment) : Option Diagnostic :=
  placed.fault?.map fun fault => ⟨placed.line, .nowhere, fault.message⟩

end PlacedSegment

/-- The placed segments of a source. -/
def placedSegments (source : String) : List PlacedSegment :=
  place 1 (segments source.toList)

end Lexical

/-! ## Tokens and diagnostics -/

/-- The tokens of a source and the diagnostics about it. -/
structure Scan where
  tokens : List Token
  diagnostics : List Diagnostic
deriving DecidableEq

namespace Scan

/-- Whether a scan met a fault. -/
def hadError (s : Scan) : Bool :=
  !s.diagnostics.isEmpty

/-- A scan has no error exactly when it reports nothing. -/
theorem hadError_eq_false_iff (s : Scan) : s.hadError = false ↔ s.diagnostics = [] := by
  simp [hadError]

end Scan

/-- Scans a source. -/
def scan (source : String) : Scan :=
  let placed := Lexical.placedSegments source
  { tokens :=
      placed.filterMap Lexical.PlacedSegment.token? ++
        [Token.endOfInput (Lexical.lastLine 1 placed)]
    diagnostics := placed.filterMap Lexical.PlacedSegment.diagnostic? }

/-! ## One pass over one source -/

/-- A source and the scan of it, once that was made. -/
structure Pass where
  source : String
  outcome : Option Scan
deriving DecidableEq

namespace Pass

/-- A source that is still to be scanned. -/
def start (source : String) : Pass :=
  ⟨source, none⟩

/-- Scans the source, unless that was done before. -/
def complete (p : Pass) : Pass :=
  { p with outcome := some (p.outcome.getD (scan p.source)) }

/-- The tokens found so far. -/
def tokens (p : Pass) : List Token :=
  (p.outcome.map Scan.tokens).getD []

/-- The diagnostics reported so far. -/
def diagnostics (p : Pass) : List Diagnostic :=
  (p.outcome.map Scan.diagnostics).getD []

/-- Whether a fault was met so far. -/
def hadError (p : Pass) : Bool :=
  (p.outcome.map Scan.hadError).getD false

@[simp] theorem complete_complete (p : Pass) : p.complete.complete = p.complete := rfl

@[simp] theorem outcome_complete_start (source : String) :
    (start source).complete.outcome = some (scan source) := rfl

end Pass

end LoxExpr
