/-!
# Diagnostics

A diagnostic names a line, a place on it and what is wrong there.  Both passes
over a source produce diagnostics in the order in which they meet the faults, and
a list of them is shown one to a line.

Main results:

- Theorem `Diagnostic.renderLines_append`: the lines of two lists follow each
  other.
-/

namespace LoxExpr

/-- Where on a line a diagnostic points. -/
inductive Place
  | nowhere
  | atEnd
  | atLexeme (text : String)
deriving DecidableEq

/-- The words that name a place, with the space before them. -/
def Place.render : Place → String
  | .nowhere => ""
  | .atEnd => " at end"
  | .atLexeme text => " at '" ++ text ++ "'"

/-- A fault in a source. -/
structure Diagnostic where
  line : Nat
  place : Place
  message : String
deriving DecidableEq

namespace Diagnostic

/-- The text of a diagnostic. -/
def render (d : Diagnostic) : String :=
  "[line " ++ toString d.line ++ "] Error" ++ d.place.render ++ ": " ++ d.message

/-- The texts of diagnostics, joined by line breaks. -/
def renderAll (ds : List Diagnostic) : String :=
  String.intercalate "\n" (ds.map render)

/-- Diagnostics as they are written to an error stream, each on a line of its
own. -/
def renderLines (ds : List Diagnostic) : String :=
  String.join (ds.map fun d => d.render ++ "\n")

/-- Lines of diagnostics are written one list after the other. -/
@[simp] theorem renderLines_append (ds es : List Diagnostic) :
    renderLines (ds ++ es) = renderLines ds ++ renderLines es := by
  simp [renderLines]

end Diagnostic

end LoxExpr
