import LoxExpr.Proofs.Command.Script
import LoxExpr.Proofs.Grammar.Conduct
import LoxExpr.Proofs.Lexical.Lines
import Mathlib.Data.List.Induction

/-!
# Transcripts of a prompt

What a prompt writes is what its lines contribute, one behind the other.  A line contributes
what the same text contributes as a script, and it neither sees the other lines nor can end
the session.  Since a line is a script of its own and ends in front of its line break, all
that is reported about it is on line one.

Main results:

- Theorem `Lines.splitLines_eq`: the lines of an input are the maximal pieces up to and
  including a line feed.
- Theorem `Lines.encoded`: an encoded text has the encoded lines of the text.
- Theorem `line_eq_one_of_refusal`: what is reported about a source without a line feed is on
  line one.
- Theorem `runPrompt_transcript`: a prompt writes the contributions of its lines, up to the
  end or to the first line that is not text.
-/

namespace LoxExpr

namespace Command

/-! ## Lines -/

section

variable {α β : Type} {lineFeed : α}

/-- The lines of a text: the maximal pieces up to and including a line feed, and what remains
behind the last one. -/
inductive Lines (lineFeed : α) : List α → List (List α) → Prop
  | none : Lines lineFeed [] []
  | last {rest} : rest ≠ [] → lineFeed ∉ rest → Lines lineFeed rest [rest]
  | line {body later lines} :
    lineFeed ∉ body →
    Lines lineFeed later lines →
    Lines lineFeed (body ++ lineFeed :: later) ((body ++ [lineFeed]) :: lines)

/-- Every text has lines. -/
theorem exists_lines [DecidableEq α] (lineFeed : α) (text : List α) :
    ∃ lines, Lines lineFeed text lines := by
  induction text with
  | nil => exact ⟨[], .none⟩
  | cons a text ih =>
    rcases ih with ⟨lines, divided⟩
    by_cases same : lineFeed = a
    · subst same
      have first : Lines lineFeed ([] ++ lineFeed :: text) (([] ++ [lineFeed]) :: lines) :=
        .line List.not_mem_nil divided
      exact ⟨_, first⟩
    · cases divided with
      | none => exact ⟨[[a]], .last (List.cons_ne_nil _ _) (by simpa using same)⟩
      | last _ absent => exact ⟨[a :: text], .last (List.cons_ne_nil _ _) (by simp [same, absent])⟩
      | @line body later lines absent divided =>
        have longer : Lines lineFeed (a :: body ++ lineFeed :: later)
            ((a :: body ++ [lineFeed]) :: lines) :=
          .line (by simp [same, absent]) divided
        exact ⟨_, longer⟩

/-- A line feed can only be the end of a line. -/
theorem Lines.not_mem_dropLast {text : List α} {lines : List (List α)}
    (divided : Lines lineFeed text lines) : ∀ line ∈ lines, lineFeed ∉ line.dropLast := by
  induction divided with
  | none => simp
  | last _ absent => simpa using fun member => absent (List.dropLast_subset _ member)
  | line absent _ ih => simpa [absent] using ih

/-- If only a line feed is written with a line feed, and every letter is written with
something, a written text has the written lines of the text. -/
theorem Lines.flatMap {write : α → List β} {lineFeed' : β}
    (marks : ∀ a, lineFeed' ∈ write a → a = lineFeed) (written : write lineFeed = [lineFeed'])
    (nonempty : ∀ a, write a ≠ []) {text : List α} {lines : List (List α)}
    (divided : Lines lineFeed text lines) :
    Lines lineFeed' (text.flatMap write) (lines.map (List.flatMap write)) := by
  have absent {body : List α} (h : lineFeed ∉ body) : lineFeed' ∉ body.flatMap write := by
    intro member
    rcases List.mem_flatMap.1 member with ⟨a, inside, mark⟩
    exact h (marks a mark ▸ inside)
  induction divided with
  | none => exact .none
  | @last rest more h =>
    refine .last (fun nothing => ?_) (absent h)
    rcases List.exists_cons_of_ne_nil more with ⟨a, rest, rfl⟩
    exact nonempty a (List.append_eq_nil_iff.1 nothing).1
  | line h _ ih => simpa [written] using Lines.line (absent h) ih

end

/-- A piece without a line feed belongs to the line that follows it. -/
theorem splitLines_append {body : List UInt8} (absent : 10 ∉ body) (later : List UInt8) :
    splitLines (body ++ 10 :: later) = (body ++ [10]) :: splitLines later := by
  induction body with
  | nil => simp [splitLines]
  | cons byte body ih =>
    rcases List.ne_and_not_mem_of_not_mem_cons absent with ⟨other, absentLater⟩
    rw [List.cons_append, splitLines, if_neg (Ne.symm other), ih absentLater]
    rfl

/-- A piece without a line feed is one line, unless there is nothing in it. -/
theorem splitLines_of_not_mem {rest : List UInt8} (more : rest ≠ []) (absent : 10 ∉ rest) :
    splitLines rest = [rest] := by
  induction rest with
  | nil => contradiction
  | cons byte rest ih =>
    rcases List.ne_and_not_mem_of_not_mem_cons absent with ⟨other, absentLater⟩
    rw [splitLines, if_neg (Ne.symm other)]
    cases rest with
    | nil => rfl
    | cons next rest => rw [ih (List.cons_ne_nil _ _) absentLater]

/-- The lines of an input are what it is split into. -/
theorem Lines.splitLines_eq {input : List UInt8} {lines : List (List UInt8)}
    (divided : Lines 10 input lines) : splitLines input = lines := by
  induction divided with
  | none => rfl
  | last more absent => exact splitLines_of_not_mem more absent
  | line absent _ ih => rw [splitLines_append absent, ih]

/-- What an input is split into are its lines. -/
theorem lines_splitLines (input : List UInt8) : Lines 10 input (splitLines input) := by
  rcases exists_lines 10 input with ⟨lines, divided⟩
  rw [divided.splitLines_eq]
  exact divided

/-! ## Encoded texts -/

/-- The bytes of a text. -/
def encoded (text : String) : List UInt8 :=
  text.toUTF8.data.toList

/-- A text is encoded character by character. -/
theorem encoded_eq_flatMap (text : String) :
    encoded text = text.toList.flatMap String.utf8EncodeChar := by
  have bytes : text.toUTF8 = (text.toList.flatMap String.utf8EncodeChar).toByteArray := by
    rw [String.toUTF8_eq_toByteArray, ← String.utf8Encode_toList]
    rfl
  rw [encoded, bytes, List.data_toByteArray]

/-- A line is text exactly if it is the encoding of that text. -/
theorem decodeLine_eq_some_iff {line : List UInt8} {text : String} :
    decodeLine line = some text ↔ line = encoded text := by
  constructor
  · intro decoded
    unfold decodeLine String.fromUTF8? at decoded
    split at decoded
    · obtain rfl := Option.some.inj decoded
      simp [encoded, String.fromUTF8]
    · contradiction
  · intro same
    have bytes : (⟨line.toArray⟩ : ByteArray) = text.toUTF8 := by simp [same, encoded]
    have content := decodeContent_toUTF8 text
    rw [decodeContent] at content
    rw [decodeLine, bytes]
    generalize String.fromUTF8? text.toUTF8 = decoded at content ⊢
    cases decoded with
    | none => contradiction
    | some other => rw [Except.ok.inj content]

/-- A character of ASCII is its own byte, and the bytes of all others are at least 128. -/
theorem cases_of_mem_utf8EncodeChar {c : Char} {byte : UInt8}
    (member : byte ∈ String.utf8EncodeChar c) :
    (c.val.toNat ≤ 127 ∧ byte = UInt8.ofNat c.val.toNat) ∨
      ∃ n, 128 ≤ n ∧ n < 256 ∧ byte = UInt8.ofNat n := by
  rw [String.utf8EncodeChar] at member
  split at member
  next ascii => exact .inl ⟨ascii, List.mem_singleton.1 member⟩
  next =>
    split at member
    · simp only [List.mem_cons, List.not_mem_nil, or_false] at member
      rcases member with rfl | rfl <;> exact .inr ⟨_, by omega, by omega, rfl⟩
    · split at member
      · simp only [List.mem_cons, List.not_mem_nil, or_false] at member
        rcases member with rfl | rfl | rfl <;> exact .inr ⟨_, by omega, by omega, rfl⟩
      · simp only [List.mem_cons, List.not_mem_nil, or_false] at member
        rcases member with rfl | rfl | rfl | rfl <;> exact .inr ⟨_, by omega, by omega, rfl⟩

/-- Only a line feed is encoded with the byte of a line feed. -/
theorem eq_lineFeed_of_mem {c : Char} (member : 10 ∈ String.utf8EncodeChar c) : c = '\n' := by
  rcases cases_of_mem_utf8EncodeChar member with ⟨ascii, same⟩ | ⟨n, low, high, same⟩
  · have value : 10 = c.val.toNat % 2 ^ 8 := by simpa using congrArg UInt8.toNat same
    refine Char.ext (UInt32.toNat_inj.1 ?_)
    show c.val.toNat = 10
    omega
  · have value : 10 = n % 2 ^ 8 := by simpa using congrArg UInt8.toNat same
    omega

/-- An encoded text has the encoded lines of the text. -/
theorem Lines.encoded {text : String} {lines : List String}
    (divided : Lines '\n' text.toList (lines.map String.toList)) :
    Lines 10 (Command.encoded text) (lines.map Command.encoded) := by
  have written := divided.flatMap (fun c => eq_lineFeed_of_mem (c := c)) rfl fun c =>
    String.utf8EncodeChar_ne_nil
  rw [List.map_map] at written
  rw [encoded_eq_flatMap, funext encoded_eq_flatMap]
  exact written

/-- If the bytes of a line have no line feed in front of its end, nor has the line. -/
theorem not_mem_dropLast_of_encoded {line : String} (absent : 10 ∉ (encoded line).dropLast) :
    '\n' ∉ line.toList.dropLast := by
  rw [encoded_eq_flatMap] at absent
  generalize line.toList = chars at absent ⊢
  induction chars using List.reverseRecOn with
  | nil => exact List.not_mem_nil
  | append_singleton front last =>
    rw [List.flatMap_append, List.flatMap_singleton,
      List.dropLast_append_of_ne_nil String.utf8EncodeChar_ne_nil] at absent
    rw [List.dropLast_concat]
    intro member
    have written : (10 : UInt8) ∈ String.utf8EncodeChar '\n' := by decide
    exact absent (List.mem_append_left _ (List.mem_flatMap.2 ⟨_, member, written⟩))

/-- Pieces are all texts, or there is a first one that is not. -/
theorem readable_or_unreadable (pieces : List (List UInt8)) :
    (∃ texts : List String, pieces = texts.map encoded) ∨
    ∃ texts : List String, ∃ unreadable later, pieces = texts.map encoded ++ unreadable :: later ∧
      decodeLine unreadable = none := by
  induction pieces with
  | nil => exact .inl ⟨[], rfl⟩
  | cons piece pieces ih =>
    cases decoded : decodeLine piece with
    | none => exact .inr ⟨[], piece, pieces, rfl, decoded⟩
    | some text =>
      obtain rfl := decodeLine_eq_some_iff.1 decoded
      rcases ih with ⟨texts, rfl⟩ | ⟨texts, unreadable, later, rfl, failed⟩
      · exact .inl ⟨text :: texts, rfl⟩
      · exact .inr ⟨text :: texts, unreadable, later, rfl, failed⟩

/-- Texts put together are encoded as their encodings put together. -/
theorem encoded_join (texts : List String) :
    encoded (String.join texts) = (texts.map encoded).flatten := by
  rw [encoded_eq_flatMap, funext encoded_eq_flatMap, ← List.flatMap_def, ← List.flatMap_assoc,
    String.toList_join]

/-- A line without its break has no line feed in it. -/
theorem not_mem_withoutBreak {line : String} (absent : '\n' ∉ line.toList.dropLast) :
    '\n' ∉ (withoutBreak line).toList := by
  rw [withoutBreak, String.toList_ofList, List.mem_reverse]
  generalize line.toList = chars at absent ⊢
  induction chars using List.reverseRecOn with
  | nil => exact List.not_mem_nil
  | append_singleton front last =>
    rw [List.dropLast_concat] at absent
    rw [List.reverse_concat, List.dropWhile_cons]
    split
    · exact fun member =>
        absent (List.mem_reverse.1 ((List.dropWhile_suffix _).subset member))
    next stays =>
      intro member
      rcases List.mem_cons.1 member with rfl | inside
      · exact stays rfl
      · exact absent (List.mem_reverse.1 inside)

/-! ## The line of a source without a line feed -/

/-- A source without a line feed ends on line one. -/
theorem endingLine_eq_one {source : String} (absent : '\n' ∉ source.toList) :
    Lexical.endingLine source.toList = 1 := by
  rw [Lexical.endingLine, Lexical.lineBreaks, List.count_eq_zero.2 absent]

/-- A session whose tokens are all on one line looks at a token on that line. -/
theorem line_peek {s : Session} {line : Nat} (hne : s.tokens ≠ [])
    (same : ∀ t ∈ s.tokens, t.line = line) : s.peek.line = line := by
  unfold Session.peek Session.front
  cases first : s.rest.head? with
  | some t => exact same t (List.mem_of_mem_drop (List.mem_of_head? first))
  | none =>
    have last := same _ (List.getLast_mem hne)
    simp [Session.endToken, Token.endOfInput, List.getLast?_eq_some_getLast hne, last]

/-- A parse keeps the tokens of a session. -/
theorem tokens_parse (s : Session) : s.parse.2.tokens = s.tokens := by
  rw [Session.parse_eq_conclude]
  cases Grammar.complete Grammar.maxDepth s.rest <;> rfl

theorem line_diagnostic (t : Token) (message : String) : (t.diagnostic message).line = t.line :=
  rfl

/-- What a source without a line feed is refused with is on line one. -/
theorem line_eq_one_of_refusal {source : String} {output : Output} {reported : List Diagnostic}
    (absent : '\n' ∉ source.toList) (refusal : Refusal source output reported) :
    ∀ d ∈ reported, d.line = 1 := by
  have last := endingLine_eq_one absent
  cases refusal with
  | lexical =>
    intro d member
    have bounds := (Lexical.ordered_filterMap Lexical.PlacedSegment.line_of_diagnostic? source).2
      d member
    omega
  | @grammatical failure _ _ parsed =>
    have one : ∀ t ∈ (scan source).tokens, t.line = 1 := by
      intro t member
      rw [tokens_scan, last] at member
      rcases List.mem_append.1 member with inside | ending
      · have bounds := (Lexical.ordered_filterMap Lexical.PlacedSegment.line_of_token? source).2
          t inside
        omega
      · rw [List.mem_singleton.1 ending]
        rfl
    have hne : (Session.start (scan source).tokens).parse.2.tokens ≠ [] := by
      rw [tokens_parse]
      simp [Session.start, tokens_scan]
    have found := Session.failed_at_peek (s := Session.start (scan source).tokens)
      (Nat.zero_le _) (Prod.ext parsed rfl)
    intro d member
    rw [List.mem_singleton.1 member, ParseError.diagnostic, line_diagnostic, found]
    refine line_peek hne fun t inside => one t ?_
    rwa [tokens_parse] at inside

/-! ## Contributions -/

/-- What a line contributes.  If there is only white space in it, this is nothing, and
otherwise it is what the line without its break is answered with as a script. -/
def contribution (output : Output) (path line : String) : Outcome :=
  if isEmptyLine line then ⟨0, "", ""⟩
  else runScript output path (decodeContent (withoutBreak line).toUTF8)

/-- What lines contribute, each behind a mark. -/
def transcript (output : Output) (path : String) (lines : List String) : String :=
  String.join (lines.map fun line => promptMark ++ (contribution output path line).stdout)

/-- What is wrong with lines, one behind the other. -/
def complaints (output : Output) (path : String) (lines : List String) : String :=
  String.join (lines.map fun line => (contribution output path line).stderr)

/-- Whether all that an outcome reports is on line one. -/
def OnLineOne (outcome : Outcome) : Prop :=
  ∃ reported, outcome.stderr = Diagnostic.renderLines reported ∧ ∀ d ∈ reported, d.line = 1

/-- A line is answered with what it contributes, and the session goes on. -/
theorem answerLine_eq_contribution (output : Output) (path line : String) :
    answerLine output line = { contribution output path line with code := 0 } := by
  unfold answerLine contribution
  split
  · rfl
  · rw [runScript_toUTF8]

/-- Lines that are text are answered with what they contribute, and what follows them as if
they had not been there. -/
theorem converse_append (output : Output) (path : String) (lines : List String)
    (later : List (List UInt8)) :
    converse output (lines.map encoded ++ later) =
      ⟨(converse output later).code,
        transcript output path lines ++ (converse output later).stdout,
        complaints output path lines ++ (converse output later).stderr⟩ := by
  induction lines with
  | nil => simp [transcript, complaints]
  | cons line lines ih =>
    rw [List.map_cons, List.cons_append, converse_cons (decodeLine_eq_some_iff.2 rfl), ih,
      answerLine_eq_contribution output path]
    simp [Outcome.before, transcript, complaints, String.append_assoc]

/-- What a line reports is on line one if only its end is a line feed. -/
theorem onLineOne_contribution (output : Output) (path : String) {line : String}
    (absent : '\n' ∉ line.toList.dropLast) : OnLineOne (contribution output path line) := by
  unfold contribution
  split
  · exact ⟨[], rfl, fun _ member => absurd member List.not_mem_nil⟩
  · rw [runScript_toUTF8]
    rcases render_cases output (withoutBreak line) with
      ⟨_, text, rendered, _⟩ | ⟨_, reported, refused, refusal⟩
    · rw [rendered]
      exact ⟨[], rfl, fun _ member => absurd member List.not_mem_nil⟩
    · rw [refused]
      exact ⟨reported, rfl, line_eq_one_of_refusal (not_mem_withoutBreak absent) refusal⟩

/-- A prompt writes what its lines contribute, whatever the lines are: each mark is followed
by what the line contributes, and a last mark stands at the end.  Nothing that a line reports
is on another line than the first.  A line that is not text ends the session behind its mark,
and the lines in front of it are answered as they would be without it.  A program that reads
line by line and writes while it works has the same outcome. -/
theorem runPrompt_transcript (output : Output) (path : String) :
    (∀ text, ∃ lines : List String, Lines '\n' text.toList (lines.map String.toList) ∧
      (∀ line ∈ lines, OnLineOne (contribution output path line)) ∧
      runPrompt output (encoded text) =
        ⟨0, transcript output path lines ++ promptMark, complaints output path lines⟩) ∧
    (∀ input, decodeLine input = none → ∃ lines : List String, ∃ unreadable later,
      Lines 10 input (lines.map encoded ++ unreadable :: later) ∧
      decodeLine unreadable = none ∧
      (∀ line ∈ lines, OnLineOne (contribution output path line)) ∧
      runPrompt output input =
        ⟨1, transcript output path lines ++ promptMark,
          complaints output path lines ++ "Error: stream did not contain valid UTF-8\n"⟩) ∧
    ∀ input, Shell.execute (Shell.prompt output (splitLines input)) =
      some (runPrompt output input) := by
  refine ⟨fun text => ?_, fun input notText => ?_, Shell.execute_prompt output⟩
  · rcases exists_lines '\n' text.toList with ⟨pieces, divided⟩
    have texts : (pieces.map String.ofList).map String.toList = pieces := by simp
    rw [← texts] at divided
    refine ⟨_, divided, fun line member => ?_, ?_⟩
    · exact onLineOne_contribution output path
        (divided.not_mem_dropLast _ (List.mem_map_of_mem member))
    · have answered := converse_append output path (pieces.map String.ofList) []
      rw [List.append_nil] at answered
      rw [runPrompt, divided.encoded.splitLines_eq, answered]
      simp [converse]
  · have divided := lines_splitLines input
    rcases readable_or_unreadable (splitLines input) with
      ⟨texts, all⟩ | ⟨lines, unreadable, later, first, failed⟩
    · -- If every line were text, so would be the input.
      have whole := flatten_splitLines input
      rw [all, ← encoded_join] at whole
      rw [decodeLine_eq_some_iff.2 whole.symm] at notText
      contradiction
    · rw [first] at divided
      refine ⟨lines, unreadable, later, divided, failed, fun line member => ?_, ?_⟩
      · have inside : encoded line ∈ lines.map encoded ++ unreadable :: later :=
          List.mem_append_left _ (List.mem_map_of_mem member)
        exact onLineOne_contribution output path
          (not_mem_dropLast_of_encoded (divided.not_mem_dropLast _ inside))
      · rw [runPrompt, first, converse_append output path]
        simp [converse, failed, unreadableLine]

end Command

end LoxExpr
