import LoxExpr.Command.Script

/-!
# The command line

Reads files and lines, prints outcomes, and leaves all decisions to
`LoxExpr.Command`.
-/

namespace LoxExpr.Command

/-- The cause of a system error. -/
def ReadFault.ofSystem : IO.Error → ReadFault
  | .noFileOrDirectory _ _ _ => .notFound
  | .inappropriateType _ code _ => if code = 21 then .isDirectory else .notDirectory
  | error => .other (toString error)

/-- Reads a script. -/
def readScript (path : String) : IO (Except ReadFault String) := do
  try
    return decodeContent (← IO.FS.readBinFile path)
  catch error =>
    return .error (ReadFault.ofSystem error)

/-- Writes an outcome and returns its exit code. -/
def emit (outcome : Outcome) : IO UInt32 := do
  let stdout ← IO.getStdout
  let stderr ← IO.getStderr
  stdout.putStr outcome.stdout
  stdout.flush
  stderr.putStr outcome.stderr
  stderr.flush
  return UInt32.ofNat outcome.code

/-- Reads bytes up to and including a line feed, or up to the end of the input. -/
partial def readLineBytes (input : IO.FS.Stream) (line : Array UInt8) : IO (Array UInt8) := do
  let bytes ← input.read 1
  match bytes.data[0]? with
  | none => return line
  | some byte =>
    if byte = 10 then return line.push byte else readLineBytes input (line.push byte)

/-- Answers lines as they come in. -/
partial def prompt (output : Output) (input : IO.FS.Stream) : IO UInt32 := do
  let stdout ← IO.getStdout
  stdout.putStr promptMark
  stdout.flush
  let line ← readLineBytes input #[]
  if line.isEmpty then
    return 0
  match decodeLine line.toList with
  | none => emit { unreadableLine with stdout := "" }
  | some text =>
    let _ ← emit (answerLine output text)
    prompt output input

/-- Runs the command on the arguments of the process. -/
def runProcess (arguments : List String) : IO UInt32 := do
  match parseArguments arguments with
  | .script path output => emit (runScript output path (← readScript path))
  | .prompt output => prompt output (← IO.getStdin)
  | .version => emit versionOutcome
  | .help => emit helpOutcome
  | .misuse => emit misuseOutcome

end LoxExpr.Command

/-- Runs the command. -/
def main (arguments : List String) : IO UInt32 :=
  LoxExpr.Command.runProcess arguments
