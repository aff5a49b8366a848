/-!
# Command-line arguments

The command takes at most one script and at most one of two output options.  The
arguments are read from left to right, and the first of them that settles the
outcome does so: an argument that fits nowhere is a misuse, and a request for the
version or for help is answered without looking at what follows.
-/

namespace LoxExpr.Command

/-- What the command prints for a source. -/
inductive Output
  | parenthesized
  | reversePolish
  | tokens
deriving DecidableEq

/-- What the command line asks for. -/
inductive Request
  | script (path : String) (output : Output)
  | prompt (output : Output)
  | version
  | help
  | misuse
deriving DecidableEq

/-- The arguments read so far. -/
structure Arguments where
  script : Option String
  reversePolish : Bool
  tokens : Bool
deriving DecidableEq

namespace Arguments

/-- The request that complete arguments make. -/
def settle (a : Arguments) : Request :=
  if a.reversePolish && a.tokens then .misuse
  else
    let output : Output :=
      if a.reversePolish then .reversePolish else if a.tokens then .tokens else .parenthesized
    match a.script with
    | some path => .script path output
    | none => .prompt output

/-- Adds the script.  There can be only one, and it must have a name. -/
def withScript? (a : Arguments) (path : String) : Option Arguments :=
  if a.script.isNone && !path.isEmpty then some { a with script := some path } else none

end Arguments

/-- What a single argument is. -/
inductive Argument
  | separator
  | reversePolish
  | tokens
  | version
  | help
  | unknown
  | script (path : String)
deriving DecidableEq

/-- Classifies an argument in front of the separator.  A lone hyphen is a script,
and of several letters behind one hyphen the first decides, because both letters
that are known settle the outcome. -/
def Argument.ofString (argument : String) : Argument :=
  match argument.toList with
  | ['-', '-'] => .separator
  | '-' :: '-' :: _ =>
    if argument = "--rpn" then .reversePolish
    else if argument = "--tokens" then .tokens
    else if argument = "--version" then .version
    else if argument = "--help" then .help
    else .unknown
  | '-' :: letter :: _ =>
    if letter = 'V' then .version else if letter = 'h' then .help else .unknown
  | _ => .script argument

/-- Reads the arguments behind the separator, all of which are scripts. -/
def parseScripts (a : Arguments) : List String → Request
  | [] => a.settle
  | path :: later =>
    match a.withScript? path with
    | some next => parseScripts next later
    | none => .misuse

/-- Reads arguments behind those that were read before. -/
def parseFrom (a : Arguments) : List String → Request
  | [] => a.settle
  | argument :: later =>
    match Argument.ofString argument with
    | .separator => parseScripts a later
    | .reversePolish =>
      if a.reversePolish then .misuse else parseFrom { a with reversePolish := true } later
    | .tokens => if a.tokens then .misuse else parseFrom { a with tokens := true } later
    | .version => .version
    | .help => .help
    | .unknown => .misuse
    | .script path =>
      match a.withScript? path with
      | some next => parseFrom next later
      | none => .misuse

/-- Reads the arguments of the command. -/
def parseArguments (arguments : List String) : Request :=
  parseFrom ⟨none, false, false⟩ arguments

end LoxExpr.Command
