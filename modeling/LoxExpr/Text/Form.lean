/-!
# Structural forms

A structural form shows how a value is built: the name of a constructor with its
arguments, down to numbers and quoted texts.  It can be written on one line, or
spread over lines that are indented by the depth.
-/

namespace LoxExpr.Text

/-- How a value is built. -/
inductive Form
  | atom (text : String)
  | labelled (label : String) (value : Form)
  | tuple (name : String) (parts : List Form)
  | record (name : String) (parts : List Form)

namespace Form

mutual

/-- A form on one line. -/
def inline : Form → String
  | .atom text => text
  | .labelled label value => label ++ ": " ++ value.inline
  | .tuple name parts => name ++ "(" ++ inlineAll parts ++ ")"
  | .record name parts => name ++ " \x7b " ++ inlineAll parts ++ " \x7d"

/-- Parts of a form on one line. -/
def inlineAll : List Form → String
  | [] => ""
  | [part] => part.inline
  | part :: later => part.inline ++ ", " ++ inlineAll later

end

mutual

/-- A form over several lines, its later lines indented by `margin`. -/
def spread (margin : String) : Form → String
  | .atom text => text
  | .labelled label value => label ++ ": " ++ value.spread margin
  | .tuple name parts => name ++ "(\n" ++ spreadAll (margin ++ "    ") parts ++ margin ++ ")"
  | .record name parts =>
    name ++ " \x7b\n" ++ spreadAll (margin ++ "    ") parts ++ margin ++ "\x7d"

/-- Parts of a form, each on lines of its own. -/
def spreadAll (margin : String) : List Form → String
  | [] => ""
  | part :: later => margin ++ part.spread margin ++ ",\n" ++ spreadAll margin later

end

/-- The form of a natural number. -/
def ofNat (n : Nat) : Form :=
  .atom (toString n)

/-- The form of a line number. -/
def ofLine (line : Nat) : Form :=
  .tuple "Line" [ofNat line]

end Form

end LoxExpr.Text
