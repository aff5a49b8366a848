import LoxExpr.Proofs.Lexical.Layout

/-!
# Scanners

A scan in single steps.  A scanner passes one segment after the other.  It keeps the line at
which it is and the tokens that it has found, and it reports every fault on the spot, behind
what others have reported before it.  Whether there was a fault it remembers in a flag of its
own, and whoever uses it looks at the flag and not at the reports.

Main results:

- Theorem `Scanner.pass_eq`: a step appends what the segment contributes to a scan.
- Theorem `Scanner.run_startAfter`: a scanner comes to the tokens of a scan, reports its
  diagnostics, and has raised the flag exactly if there are any.
-/

namespace LoxExpr

/-- A scanner at work. -/
structure Scanner where
  rest : List Char
  line : Nat
  tokens : List Token
  hadError : Bool
  reported : List Diagnostic

namespace Scanner

/-! ## Steps -/

/-- A scanner in front of a source, when something may have been reported before. -/
def startAfter (sink : List Diagnostic) (source : String) : Scanner :=
  ⟨source.toList, 1, [], false, sink⟩

/-- Appends a token that ends here. -/
def addToken (s : Scanner) (symbol : Symbol) (text : List Char) : Scanner :=
  { s with tokens := s.tokens ++ [⟨symbol, String.ofList text, s.line⟩] }

/-- Reports a fault that ends here, and raises the flag. -/
def fail (s : Scanner) (fault : Lexical.Fault) : Scanner :=
  { s with
    hadError := true
    reported := s.reported ++ [⟨s.line, .nowhere, fault.message⟩] }

/-- Passes a segment. -/
def pass (s : Scanner) (segment : Lexical.Segment) (rest : List Char) : Scanner :=
  let moved := { s with rest := rest, line := s.line + Lexical.lineBreaks segment.text }
  match segment.role with
  | .token symbol => moved.addToken symbol segment.text
  | .fault fault => moved.fail fault
  | .blank | .lineComment | .blockComment => moved

/-- A step leaves what follows the segment. -/
@[simp] theorem rest_pass (s : Scanner) (segment : Lexical.Segment) (rest : List Char) :
    (s.pass segment rest).rest = rest := by
  rcases segment with ⟨text, role⟩
  cases role <;> rfl

/-- Passes all segments, and closes the tokens with the end of the input. -/
def run (s : Scanner) : Scanner :=
  match _ahead : s.rest with
  | [] => { s with tokens := s.tokens ++ [Token.endOfInput s.line] }
  | c :: cs =>
    let found := Lexical.cut c cs
    (s.pass ⟨c :: found.tail, found.role⟩ found.rest).run
termination_by s.rest.length
decreasing_by
  simp only [rest_pass, _ahead]
  exact Nat.lt_succ_of_le (Lexical.length_cut_rest_le c cs)

/-! ## What a scanner comes to -/

/-- The scanner at another place, behind what a scan contributes. -/
def behind (s : Scanner) (scanned : Scan) (rest : List Char) (line : Nat) : Scanner :=
  ⟨rest, line, s.tokens ++ scanned.tokens, s.hadError || scanned.hadError,
    s.reported ++ scanned.diagnostics⟩

/-- One scan behind another is both of them. -/
theorem behind_behind (s : Scanner) (first second : Scan) (rest rest' : List Char)
    (line line' : Nat) :
    (s.behind first rest line).behind second rest' line' =
      s.behind (first ++ second) rest' line' := by
  unfold behind
  rw [Scan.hadError_append, Bool.or_assoc, List.append_assoc, List.append_assoc]
  rfl

/-- A step appends what the segment contributes. -/
theorem pass_eq (s : Scanner) (segment : Lexical.Segment) (rest : List Char) :
    s.pass segment rest =
      s.behind (Scan.ofPlaced (Lexical.place s.line [segment])) rest
        (s.line + Lexical.lineBreaks segment.text) := by
  rcases segment with ⟨text, role⟩
  cases role <;>
    simp [pass, behind, addToken, fail, Scan.ofPlaced, Scan.hadError, Lexical.place,
      Lexical.PlacedSegment.token?, Lexical.PlacedSegment.diagnostic?,
      Lexical.PlacedSegment.fault?]

/-- From any place on, a scanner appends what the segments ahead contribute and the end of
the input. -/
theorem run_eq (s : Scanner) :
    s.run =
      s.behind
        (Scan.ofPlaced (Lexical.place s.line (Lexical.segments s.rest)) ++
          Scan.ending (s.line + Lexical.lineBreaks s.rest))
        [] (s.line + Lexical.lineBreaks s.rest) := by
  fun_induction run s with
  | case1 s ahead =>
    simp [ahead, behind, Scan.append_def, Scan.ofPlaced, Scan.ending, Scan.hadError,
      Lexical.place, Lexical.lineBreaks]
  | case2 s c cs ahead found ih =>
    have whole : c :: cs = c :: found.tail ++ found.rest := by
      rw [List.cons_append, Lexical.cut_append]
    have last : s.line + Lexical.lineBreaks (c :: cs) =
        s.line + Lexical.lineBreaks (c :: found.tail) + Lexical.lineBreaks found.rest := by
      rw [Nat.add_assoc, ← Lexical.lineBreaks_append, ← whole]
    rw [ih, rest_pass, pass_eq, behind_behind, ahead, Lexical.segments_cons, last,
      ← Scan.append_assoc, behind, ← Scan.ofPlaced_append]
    rfl

/-- A scanner comes to the tokens of a scan.  It has reported the diagnostics behind those
from before, and it has raised the flag exactly if there are any. -/
theorem run_startAfter (sink : List Diagnostic) (source : String) :
    (startAfter sink source).run =
      ⟨[], Lexical.endingLine source.toList, (scan source).tokens, (scan source).hadError,
        sink ++ (scan source).diagnostics⟩ := by
  rw [run_eq, scan_eq_ofPlaced]
  rfl

end Scanner

end LoxExpr
