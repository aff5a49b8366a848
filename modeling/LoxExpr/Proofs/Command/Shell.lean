import LoxExpr.Command.Script
import LoxExpr.Proofs.Grammar.Conduct
import LoxExpr.Proofs.Lexical.Scanner

/-!
# Shells

The command in single steps, as a program that writes while it works.  What is wrong with a
source is reported on the spot by the scanner or in the middle of a production, and the
program then decides by a flag or by a failure whether it goes on.  A script ends with the
first source that stops it.  The prompt lets such a stop pass and goes on with the next line,
on the console as it was left.

Main results:

- Theorem `Shell.process_apply`: a source is rendered at the end, or it is stopped with its
  diagnostics and nothing is rendered.
- Theorem `Shell.execute_script`: the program for a script has the outcome of the script.
- Theorem `Shell.execute_prompt`: the program for a prompt has the outcome of the prompt,
  although each line finds what the lines before it have left.
-/

namespace LoxExpr

namespace Session

/-- A parse does not depend on what was reported before it. -/
theorem parse_startAfter (sink : List Diagnostic) (tokens : List Token) :
    (startAfter sink tokens).parse.1 = LoxExpr.parse tokens := by
  have descent (told : List Diagnostic) : (startAfter told tokens).parse.1 =
      ((startAfter told tokens).conclude (Grammar.complete Grammar.maxDepth tokens)).1 := by
    rw [parse_eq_conclude, rest_startAfter]
  have started : LoxExpr.parse tokens = (startAfter [] tokens).parse.1 := rfl
  rw [started, descent, descent]
  cases Grammar.complete Grammar.maxDepth tokens <;> rfl

end Session

namespace Command

/-- What a command has written: texts, and diagnostics one to a line. -/
structure Console where
  stdout : String
  reported : List Diagnostic

/-- Why a command stops. -/
inductive Stop
  | lexicalFaults
  | parseFailure (failure : ParseError)
  | unreadable (message : String)

/-- Programs that write, and can stop.  They have no outcome if there is no room for the calls
of a walker. -/
abbrev Shell := ExceptT Stop (StateT Console Option)

namespace Shell

/-! ## Steps -/

/-- Writes a text. -/
def write (text : String) : Shell Unit :=
  modify fun c => { c with stdout := c.stdout ++ text }

/-- Ends without an outcome. -/
def overflow {α : Type} : Shell α :=
  ExceptT.mk fun _ => none

/-- Scans a source and reports its faults, and tells how the scanner ends. -/
def scanSource (source : String) : Shell Scanner := do
  let scanner := (Scanner.startAfter (← get).reported source).run
  modify fun c => { c with reported := scanner.reported }
  return scanner

/-- Parses tokens, and stops with a failure that the walker has reported. -/
def parseTokens (tokens : List Token) : Shell Expr := do
  match Walk.parse ⟨Session.startAfter (← get).reported tokens, 0⟩ with
  | none => overflow
  | some (result, walker) =>
    modify fun c => { c with reported := walker.session.reported }
    match result with
    | .ok e => return e
    | .error failure => throw (.parseFailure failure)

/-- Renders a source, unless something is wrong with it. -/
def process (output : Output) (source : String) : Shell Unit := do
  let scanner ← scanSource source
  if scanner.hadError then throw .lexicalFaults
  else if output = .tokens then write (Token.dumpAll scanner.tokens ++ "\n")
  else
    let e ← parseTokens scanner.tokens
    write (renderTree output e ++ "\n")

/-- Goes on behind a source that was stopped. -/
def attempt (x : Shell Unit) : Shell Unit :=
  tryCatch x fun
    | .lexicalFaults | .parseFailure _ => return
    | .unreadable message => throw (.unreadable message)

/-! ## Commands -/

/-- Processes a script that was read, or stops because it could not be. -/
def script (output : Output) (path : String) : Except ReadFault String → Shell Unit
  | .ok source => process output source
  | .error fault =>
    throw (.unreadable
      ("Error: Could not read " ++ path ++ "\n\nCaused by:\n    " ++ fault.message ++ "\n"))

/-- Processes line after line, up to the end or to the first that is not text. -/
def prompt (output : Output) : List (List UInt8) → Shell Unit
  | [] => write promptMark
  | line :: later => do
    write promptMark
    match decodeLine line with
    | none => throw (.unreadable unreadableLine.stderr)
    | some text =>
      if isEmptyLine text then prompt output later
      else
        attempt (process output (withoutBreak text))
        prompt output later

/-- What a program leaves behind. -/
def conclude (c : Console) : Except Stop Unit → Outcome
  | .ok () => ⟨0, c.stdout, Diagnostic.renderLines c.reported⟩
  | .error .lexicalFaults | .error (.parseFailure _) =>
    ⟨65, c.stdout, Diagnostic.renderLines c.reported⟩
  | .error (.unreadable message) => ⟨1, c.stdout, Diagnostic.renderLines c.reported ++ message⟩

/-- Carries out a program, from a console on which nothing is written. -/
def execute (x : Shell Unit) : Option Outcome :=
  (x ⟨"", []⟩).map fun (result, c) => conclude c result

/-! ## Carrying out programs -/

section

variable {α β : Type}

/-- A program goes on behind what comes to an end, and a stop is passed on. -/
theorem bind_apply (x : Shell α) (next : α → Shell β) (c : Console) :
    (x >>= next) c =
      match x c with
      | some (.ok a, c') => next a c'
      | some (.error stop, c') => some (.error stop, c')
      | none => none := by
  show (x c >>= _) = _
  cases x c with
  | none => rfl
  | some outcome =>
    rcases outcome with ⟨result, c'⟩
    cases result <;> rfl

theorem pure_apply (a : α) (c : Console) : (pure a : Shell α) c = some (.ok a, c) := rfl

theorem modify_apply (g : Console → Console) (c : Console) :
    (modify g : Shell Unit) c = some (.ok (), g c) := rfl

theorem write_apply (text : String) (c : Console) :
    write text c = some (.ok (), { c with stdout := c.stdout ++ text }) := rfl

theorem throw_apply (stop : Stop) (c : Console) :
    (throw stop : Shell α) c = some (.error stop, c) := rfl

/-- A scanner reports behind what is on the console. -/
theorem scanSource_apply (source : String) (c : Console) :
    ∃ scanner : Scanner,
      scanSource source c =
        some (.ok scanner, { c with reported := c.reported ++ (scan source).diagnostics }) ∧
      scanner.tokens = (scan source).tokens ∧ scanner.hadError = (scan source).hadError := by
  have swept := Scanner.run_startAfter c.reported source
  refine ⟨(Scanner.startAfter c.reported source).run, ?_, by rw [swept], by rw [swept]⟩
  have reported : (Scanner.startAfter c.reported source).run.reported =
      c.reported ++ (scan source).diagnostics := by rw [swept]
  rw [← reported]
  rfl

/-- A walker reports a failure behind what is on the console, and nothing else. -/
theorem parseTokens_apply (tokens : List Token) (c : Console) :
    parseTokens tokens c =
      match parse tokens with
      | .ok e => some (.ok e, c)
      | .error failure =>
        some (.error (.parseFailure failure),
          { c with reported := c.reported ++ [failure.diagnostic] }) := by
  rcases Walk.parse_apply (Session.inside_startAfter c.reported tokens) 0 with ⟨depth, parsed⟩
  have told := Session.reported_answer (Session.startAfter c.reported tokens) .parse
  have result := Session.parse_startAfter c.reported tokens
  simp only [Session.answer] at told
  have opened : parseTokens tokens c =
      (match Walk.parse ⟨Session.startAfter c.reported tokens, 0⟩ with
      | none => overflow
      | some (result, walker) => do
        modify fun c => { c with reported := walker.session.reported }
        match result with
        | .ok e => return e
        | .error failure => throw (.parseFailure failure) : Shell Expr) c := rfl
  rw [opened, parsed]
  simp only [bind_apply, modify_apply, told, result]
  cases parse tokens with
  | ok e => simp [Session.Answer.failure?, pure_apply, Session.startAfter]
  | error failure => rfl

/-- A source is rendered at the end, or it stops and nothing is rendered.  It reports behind
what is on the console. -/
theorem process_apply (output : Output) (source : String) (c : Console) :
    (∃ text, render output source = .ok text ∧
      process output source c = some (.ok (), { c with stdout := c.stdout ++ (text ++ "\n") })) ∨
    ∃ reported stop, render output source = .error reported ∧
      (∀ message, stop ≠ .unreadable message) ∧
      process output source c =
        some (.error stop, { c with reported := c.reported ++ reported }) := by
  rcases scanSource_apply source c with ⟨scanner, scanned, tokens, flag⟩
  simp only [process, bind_apply, scanned, flag, tokens]
  cases faulty : (scan source).hadError with
  | true =>
    refine .inr ⟨_, .lexicalFaults, render_eq_error_of_hadError faulty output,
      fun _ => Stop.noConfusion, ?_⟩
    rfl
  | false =>
    have hnil := (Scan.hadError_eq_false_iff _).1 faulty
    simp only [hnil, List.append_nil, Bool.false_eq_true, if_false]
    by_cases dumped : output = .tokens
    · subst dumped
      exact .inl ⟨_, render_tokens faulty, rfl⟩
    · simp only [dumped, if_false, bind_apply, parseTokens_apply]
      cases parsed : parse (scan source).tokens with
      | ok e =>
        refine .inl ⟨renderTree output e, ?_, rfl⟩
        simp [render, faulty, dumped, parsed]
      | error failure =>
        refine .inr ⟨_, .parseFailure failure, ?_, fun _ => Stop.noConfusion, rfl⟩
        simp [render, faulty, dumped, parsed]

/-! ## Outcomes of programs -/

/-- The program for a script has the outcome of the script. -/
theorem execute_script (output : Output) (path : String) (content : Except ReadFault String) :
    execute (script output path content) = some (runScript output path content) := by
  cases content with
  | error fault => simp [execute, script, throw_apply, conclude, runScript, Diagnostic.renderLines]
  | ok source =>
    rcases process_apply output source ⟨"", []⟩ with
      ⟨text, rendered, processed⟩ | ⟨reported, stop, refused, notUnreadable, processed⟩
    · simp [execute, script, processed, conclude, runScript, rendered, Outcome.ofRendering,
        Diagnostic.renderLines]
    · cases stop with
      | unreadable message => exact absurd rfl (notUnreadable message)
      | _ => simp [execute, script, processed, conclude, runScript, refused, Outcome.ofRendering]

/-- A source that was stopped leaves its diagnostics, and the program goes on. -/
theorem attempt_apply (output : Output) (source : String) (c : Console) :
    attempt (process output source) c =
      some (.ok (),
        match render output source with
        | .ok text => { c with stdout := c.stdout ++ (text ++ "\n") }
        | .error reported => { c with reported := c.reported ++ reported }) := by
  have opened (x : Shell Unit) (handle : Stop → Shell Unit) :
      tryCatch x handle c =
        match x c with
        | some (.ok a, c') => some (.ok a, c')
        | some (.error stop, c') => handle stop c'
        | none => none := by
    show (x c >>= _) = _
    cases x c with
    | none => rfl
    | some outcome =>
      rcases outcome with ⟨result, c'⟩
      cases result <;> rfl
  rw [attempt, opened]
  rcases process_apply output source c with
    ⟨text, rendered, processed⟩ | ⟨reported, stop, refused, notUnreadable, processed⟩
  · rw [processed, rendered]
  · rw [processed, refused]
    cases stop with
    | unreadable message => exact absurd rfl (notUnreadable message)
    | _ => rfl

/-- A prompt answers lines behind what is on the console. -/
theorem prompt_apply (output : Output) (lines : List (List UInt8)) (c : Console) :
    (prompt output lines c).map (fun (result, c') => conclude c' result) =
      some
        ⟨(converse output lines).code, c.stdout ++ (converse output lines).stdout,
          Diagnostic.renderLines c.reported ++ (converse output lines).stderr⟩ := by
  induction lines generalizing c with
  | nil => simp [prompt, write_apply, conclude, converse]
  | cons line later ih =>
    rw [prompt, converse]
    simp only [bind_apply, write_apply]
    cases decodeLine line with
    | none => rfl
    | some text =>
      cases empty : isEmptyLine text with
      | true => simp [empty, ih, Outcome.before, answerLine, String.append_assoc]
      | false =>
        simp only [empty, Bool.false_eq_true, if_false, bind_apply, attempt_apply, ih]
        cases rendered : render output (withoutBreak text) <;>
          simp [Outcome.before, answerLine, empty, rendered, Outcome.ofRendering,
            String.append_assoc]

/-- The program for a prompt has the outcome of the prompt. -/
theorem execute_prompt (output : Output) (input : List UInt8) :
    execute (prompt output (splitLines input)) = some (runPrompt output input) := by
  rw [execute, prompt_apply]
  simp [runPrompt, Diagnostic.renderLines]

end

end Shell

end Command

end LoxExpr
