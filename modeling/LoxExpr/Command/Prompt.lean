import LoxExpr.Command.Outcome
import LoxExpr.Text.WhiteSpace

/-!
# The prompt

The prompt reads its input line by line.  In front of each line, and once more at
the end of the input, it writes a mark.  An empty line is passed over; every other
line is a source of its own, without its line break, and a fault in it does not
end the session.  Only a line that is not text does.

Main results:

- Theorem `flatten_splitLines`: the lines of an input, put together again, are
  the input.
- Theorem `converse_cons`: a line is answered by itself, whatever lines stand
  around it.
-/

namespace LoxExpr.Command

/-! ## Lines -/

/-- The lines of an input: maximal pieces up to and including a line feed, and what
remains behind the last one. -/
def splitLines : List UInt8 → List (List UInt8)
  | [] => []
  | byte :: bytes =>
    if byte = 10 then [byte] :: splitLines bytes
    else
      match splitLines bytes with
      | [] => [[byte]]
      | line :: later => (byte :: line) :: later

/-- The text of a line, if it is text. -/
def decodeLine (line : List UInt8) : Option String :=
  String.fromUTF8? ⟨line.toArray⟩

/-- Whether a line holds nothing but white space. -/
def isEmptyLine (line : String) : Bool :=
  line.toList.all Text.isWhiteSpace

/-- A line without the line feeds and carriage returns at its end. -/
def withoutBreak (line : String) : String :=
  String.ofList (line.toList.reverse.dropWhile fun c => c == '\n' || c == '\r').reverse

/-- The lines of an input, put together again, are the input. -/
theorem flatten_splitLines (bytes : List UInt8) : (splitLines bytes).flatten = bytes := by
  induction bytes with
  | nil => rfl
  | cons byte bytes ih =>
    unfold splitLines
    split
    · simp [ih]
    · split
      next hnone =>
        rw [hnone] at ih
        simp [← ih]
      next line later hsome =>
        rw [hsome] at ih
        simpa using ih

/-! ## Answers -/

/-- What is written in front of each line. -/
def promptMark : String := "> "

/-- What a line of text is answered with. -/
def answerLine (output : Output) (line : String) : Outcome :=
  if isEmptyLine line then ⟨0, "", ""⟩
  else { Outcome.ofRendering (render output (withoutBreak line)) with code := 0 }

/-- What is reported when a line is not text. -/
def unreadableLine : Outcome :=
  ⟨1, promptMark, "Error: stream did not contain valid UTF-8\n"⟩

/-- Writes a mark and the answer to a line in front of what comes later. -/
def Outcome.before (answer later : Outcome) : Outcome :=
  ⟨later.code, promptMark ++ answer.stdout ++ later.stdout, answer.stderr ++ later.stderr⟩

/-- Answers line after line, up to the first that is not text. -/
def converse (output : Output) : List (List UInt8) → Outcome
  | [] => ⟨0, promptMark, ""⟩
  | line :: later =>
    match decodeLine line with
    | none => unreadableLine
    | some text => (answerLine output text).before (converse output later)

/-- Answers a whole input. -/
def runPrompt (output : Output) (input : List UInt8) : Outcome :=
  converse output (splitLines input)

/-- A line of text is answered by itself, and the lines behind it as if it had not
been there. -/
theorem converse_cons {line : List UInt8} {text : String} (h : decodeLine line = some text)
    (output : Output) (later : List (List UInt8)) :
    converse output (line :: later) = (answerLine output text).before (converse output later) := by
  simp [converse, h]

end LoxExpr.Command
