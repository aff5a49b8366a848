import LoxExpr.Proofs.Command.Shell
import Mathlib.Logic.Basic

/-!
# Scripts

A script is rendered as a whole, or it is refused with diagnostics and nothing of it is
rendered.  It is refused with all of its lexical faults if it has any, and otherwise with the
failure of its parse, which only the token dump does without.

Main results:

- Theorem `success_or_failure`: the outcome of a script is one of the two, and which of them
  is told by the scan and the parse.
- Theorem `runScript_all_or_nothing`: the two outcomes exclude each other, and a program that
  writes while it works comes to the same one.
- Theorem `run_eq_runScript`: the command comes to the outcome of the script its arguments
  name.
-/

namespace LoxExpr.Command

/-! ## The two outcomes -/

/-- What a source is rendered as. -/
inductive Rendering (source : String) : Output → String → Prop
  | tokens :
    Rendering source .tokens (String.intercalate "\n" ((scan source).tokens.map Token.dump))
  | parenthesized {e} :
    parse (scan source).tokens = .ok e →
    Rendering source .parenthesized e.parenthesized
  | reversePolish {e} :
    parse (scan source).tokens = .ok e →
    Rendering source .reversePolish e.reversePolish

/-- What a source is refused with. -/
inductive Refusal (source : String) (output : Output) : List Diagnostic → Prop
  | lexical :
    (scan source).diagnostics ≠ [] →
    Refusal source output (scan source).diagnostics
  | grammatical {failure} :
    (scan source).diagnostics = [] →
    output ≠ .tokens →
    parse (scan source).tokens = .error failure →
    failure.diagnostic.render = failure.render →
    Refusal source output [failure.diagnostic]

/-- A source is rendered, and nothing is reported. -/
structure Success (output : Output) (source : String) (outcome : Outcome) : Prop where
  code : outcome.code = 0
  stderr : outcome.stderr = ""
  stdout : ∃ text, Rendering source output text ∧ outcome.stdout = text ++ "\n"

/-- A source is refused, and nothing is rendered. -/
structure Failure (output : Output) (source : String) (outcome : Outcome) : Prop where
  code : outcome.code = 65
  stdout : outcome.stdout = ""
  stderr : ∃ reported, Refusal source output reported ∧ reported ≠ [] ∧
    outcome.stderr = String.join (reported.map fun d => d.render ++ "\n")

/-- No outcome is a success and a failure. -/
theorem Success.not_failure {output : Output} {source : String} {outcome : Outcome}
    (success : Success output source outcome) : ¬Failure output source outcome := by
  intro failure
  have code := failure.code
  rw [success.code] at code
  contradiction

/-- A rendering that was asked for a tree is one of the parsed tree. -/
theorem rendering_renderTree {source : String} {output : Output} {e : Expr}
    (parsed : parse (scan source).tokens = .ok e) (tree : output ≠ .tokens) :
    Rendering source output (renderTree output e) := by
  cases output with
  | parenthesized => exact .parenthesized parsed
  | reversePolish => exact .reversePolish parsed
  | tokens => contradiction

/-! ## Which outcome a source has -/

/-- Whether nothing is wrong with a source: it has no lexical fault, and it is an expression
if a tree is asked for. -/
def Faultless (output : Output) (source : String) : Prop :=
  (scan source).diagnostics = [] ∧
    (output ≠ .tokens → ∃ e, parse (scan source).tokens = .ok e)

/-- A source is rendered, or it is refused with what is wrong with it. -/
theorem render_cases (output : Output) (source : String) :
    (Faultless output source ∧ ∃ text, render output source = .ok text ∧
      Rendering source output text) ∨
    (¬Faultless output source ∧ ∃ reported, render output source = .error reported ∧
      Refusal source output reported) := by
  cases faulty : (scan source).hadError with
  | true =>
    have hne : (scan source).diagnostics ≠ [] := by
      intro hnil
      rw [(Scan.hadError_eq_false_iff _).2 hnil] at faulty
      contradiction
    refine .inr ⟨fun faultless => hne faultless.1, _, ?_, .lexical hne⟩
    exact render_eq_error_of_hadError faulty output
  | false =>
    have hnil := (Scan.hadError_eq_false_iff _).1 faulty
    by_cases dumped : output = .tokens
    · subst dumped
      exact .inl ⟨⟨hnil, fun tree => absurd rfl tree⟩, _, render_tokens faulty, .tokens⟩
    · cases parsed : parse (scan source).tokens with
      | ok e =>
        refine .inl ⟨⟨hnil, fun _ => ⟨e, parsed⟩⟩, _, ?_, rendering_renderTree parsed dumped⟩
        simp [render, faulty, dumped, parsed]
      | error failure =>
        refine .inr ⟨fun faultless => ?_, _, ?_, .grammatical hnil dumped parsed rfl⟩
        · rcases faultless.2 dumped with ⟨e, returned⟩
          rw [parsed] at returned
          contradiction
        · simp [render, faulty, dumped, parsed]

/-- Nothing is refused without a diagnostic. -/
theorem Refusal.ne_nil {source : String} {output : Output} {reported : List Diagnostic}
    (refusal : Refusal source output reported) : reported ≠ [] := by
  cases refusal with
  | lexical hne => exact hne
  | grammatical => exact List.cons_ne_nil _ _

/-- A source that nothing is wrong with succeeds, and every other one fails. -/
theorem success_or_failure (output : Output) (source : String) :
    (Faultless output source ∧
      Success output source (Outcome.ofRendering (render output source))) ∨
    (¬Faultless output source ∧
      Failure output source (Outcome.ofRendering (render output source))) := by
  rcases render_cases output source with
    ⟨faultless, text, rendered, rendering⟩ | ⟨faulty, reported, refused, refusal⟩
  · rw [rendered]
    exact .inl ⟨faultless, rfl, rfl, text, rendering, rfl⟩
  · rw [refused]
    exact .inr ⟨faulty, rfl, rfl, reported, refusal, refusal.ne_nil, rfl⟩

/-- A file that is text is answered with the rendering of that text. -/
theorem runScript_toUTF8 (output : Output) (path source : String) :
    runScript output path (decodeContent source.toUTF8) =
      Outcome.ofRendering (render output source) := by
  rw [decodeContent_toUTF8, runScript]

/-- A script that is text succeeds or fails, and not both.  It succeeds exactly if the scan
reports nothing and, where a tree is asked for, the parse returns one.  A program that writes
while it works has the same outcome. -/
theorem runScript_all_or_nothing (output : Output) (path source : String) :
    let outcome := runScript output path (decodeContent source.toUTF8)
    Xor (Success output source outcome) (Failure output source outcome) ∧
    (Success output source outcome ↔
      (scan source).diagnostics = [] ∧
        (output ≠ .tokens → ∃ e, parse (scan source).tokens = .ok e)) ∧
    Shell.execute (Shell.script output path (decodeContent source.toUTF8)) = some outcome := by
  intro outcome
  have rendered : outcome = Outcome.ofRendering (render output source) :=
    runScript_toUTF8 output path source
  have decided := success_or_failure output source
  rw [← rendered] at decided
  refine ⟨?_, ?_, Shell.execute_script _ _ _⟩
  · rcases decided with ⟨_, success⟩ | ⟨_, failure⟩
    · exact .inl ⟨success, success.not_failure⟩
    · exact .inr ⟨failure, fun success => success.not_failure failure⟩
  · constructor
    · intro success
      rcases decided with ⟨faultless, _⟩ | ⟨_, failure⟩
      · exact faultless
      · exact absurd failure success.not_failure
    · intro faultless
      rcases decided with ⟨_, success⟩ | ⟨faulty, _⟩
      · exact success
      · exact absurd faultless faulty

/-- The command whose arguments name a script has the outcome of the file that it finds there,
be that text or not, and does not look at its standard input. -/
theorem run_eq_runScript {directory : Directory} {arguments : List String} {path : String}
    {output : Output} {content : ByteArray}
    (asked : parseArguments arguments = .script path output)
    (found : directory.read path = .ok content) (input : List UInt8) :
    run directory arguments input = runScript output path (decodeContent content) := by
  simp only [run, asked, Directory.readText, found]
  rfl

end LoxExpr.Command
