import LoxExpr.Command.Directory
import LoxExpr.Command.Prompt

/-!
# Running the command

The command as a function: from a directory, the arguments and the standard input
to the outcome.
-/

namespace LoxExpr.Command

/-- The outcome for a script that was read, or that could not be. -/
def runScript (output : Output) (path : String) : Except ReadFault String → Outcome
  | .ok source => Outcome.ofRendering (render output source)
  | .error fault =>
    ⟨1, "", "Error: Could not read " ++ path ++ "\n\nCaused by:\n    " ++ fault.message ++ "\n"⟩

/-- The name and version of the command. -/
def versionText : String := "loxtree 0.1.0\n"

/-- How the command is called. -/
def usageText : String := "Usage: loxtree [OPTIONS] [FILE]\n"

/-- What the command does and how it is called. -/
def helpText : String :=
  "Scans and parses Lox expressions and prints their syntax tree\n\n" ++ usageText ++
  "\nArguments:\n" ++
  "  [FILE]  Script to read. Starts a prompt when omitted\n" ++
  "\nOptions:\n" ++
  "      --rpn      Print reverse polish notation instead of the parenthesized prefix form\n" ++
  "      --tokens   Dump the scanned tokens instead of parsing them\n" ++
  "  -h, --help     Print help\n" ++
  "  -V, --version  Print version\n"

/-- The outcome of a request for the version. -/
def versionOutcome : Outcome := ⟨0, versionText, ""⟩

/-- The outcome of a request for help. -/
def helpOutcome : Outcome := ⟨0, helpText, ""⟩

/-- The outcome of arguments that make no request, without the explanation of what is wrong
with them that stands in front of the usage. -/
def misuseOutcome : Outcome := ⟨2, "", usageText⟩

/-- Runs the command. -/
def run (directory : Directory) (arguments : List String) (input : List UInt8) : Outcome :=
  match parseArguments arguments with
  | .script path output => runScript output path (directory.readText path)
  | .prompt output => runPrompt output input
  | .version => versionOutcome
  | .help => helpOutcome
  | .misuse => misuseOutcome

end LoxExpr.Command
