import LoxExpr.Grammar.Session
import LoxExpr.Lexical.Scan
import LoxExpr.Trace.Shape

/-!
# Trace records

What the scanner and the parser tell about their work, step by step.  Every record
is a function of what was found, so tracing has no influence on it: the scanner
tells each token, each fault and a summary, and the parser each failure, each
token that it skips and each tree.
-/

namespace LoxExpr

/-- How detailed a record is. -/
inductive TraceLevel
  | trace
  | debug
deriving DecidableEq

/-- Who tells a record. -/
inductive TraceSource
  | scanner
  | parser
deriving DecidableEq

/-- One record. -/
structure TraceRecord where
  level : TraceLevel
  source : TraceSource
  message : String
deriving DecidableEq

/-! ## Scanning -/

/-- The form of a fault. -/
def Lexical.Fault.form : Lexical.Fault → Text.Form
  | .unexpectedCharacter c => .tuple "UnexpectedCharacter" [.atom (Text.quotedChar c)]
  | .unterminatedString => .atom "UnterminatedString"
  | .unterminatedBlockComment => .atom "UnterminatedBlockComment"

/-- What the scanner tells about a segment. -/
def Lexical.PlacedSegment.record? (placed : Lexical.PlacedSegment) : Option TraceRecord :=
  match placed.token?, placed.fault? with
  | some token, _ => some ⟨.trace, .scanner, token.form.inline⟩
  | none, some fault =>
    some ⟨.trace, .scanner,
      "Scan error on line " ++ toString placed.line ++ ": " ++ fault.form.inline⟩
  | none, none => none

/-- What the scanner tells when it is done. -/
def Scan.summary (s : Scan) (line : Nat) : TraceRecord :=
  ⟨.debug, .scanner,
    "Scanned " ++ toString s.tokens.length ++ " tokens, ending on line " ++ toString line ++
      " (had_error: " ++ toString s.hadError ++ ")"⟩

/-- What the scanner tells about a source. -/
def scanRecords (source : String) : List TraceRecord :=
  let placed := Lexical.placedSegments source
  placed.filterMap Lexical.PlacedSegment.record? ++
    [(scan source).summary (Lexical.lastLine 1 placed)]

/-- What the scanner tells when it is asked to complete a pass. -/
def Pass.records (p : Pass) : List TraceRecord :=
  match p.outcome with
  | none => scanRecords p.source
  | some _ => []

/-! ## Parsing -/

/-- What the parser tells about an answer. -/
def Session.Answer.records : Session.Answer → List TraceRecord
  | .parsed (.ok e) => [⟨.debug, .parser, "Parsed expression: " ++ e.form.inline⟩]
  | .parsed (.error failure) =>
    [⟨.trace, .parser,
      "Hit error: " ++ failure.reason.name ++ " at " ++ failure.token.form.inline⟩]
  | .synchronized skipped =>
    skipped.map fun token =>
      ⟨.trace, .parser, "Syncing... skipping " ++ token.form.inline⟩
  | .peeked _ => []

end LoxExpr
