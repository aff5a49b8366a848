import LoxExpr.Proofs.Lexical.Lines
import LoxExpr.Proofs.Lexical.Lookahead

/-!
# Layout

Blanks and comments separate tokens and contribute nothing else.  A text of them between
two tokens can be exchanged for any other that begins with a blank: the tokens in front of
it stay where they are, and those behind it only stand on other lines.

Main results:

- Theorem `Layout.exists_segments`: a layout consists of blanks and comments, whatever
  follows it.
- Theorem `Scan.ofPlaced_place_gap`: what is scanned behind blanks and comments moves down
  by their line breaks.
- Theorem `scan_layout`: exchanging the layout between tokens moves tokens and diagnostics,
  and changes nothing else about them.
-/

namespace LoxExpr

/-! ## Moving down -/

/-- The same token a number of lines further down. -/
def Token.moveDown (n : Nat) (t : Token) : Token :=
  { t with line := t.line + n }

/-- The same diagnostic a number of lines further down. -/
def Diagnostic.moveDown (n : Nat) (d : Diagnostic) : Diagnostic :=
  { d with line := d.line + n }

namespace Lexical

/-- The same segment a number of lines further down. -/
def PlacedSegment.moveDown (n : Nat) (placed : PlacedSegment) : PlacedSegment :=
  { placed with line := placed.line + n }

/-- Segments that start further down end further down. -/
theorem place_add (line n : Nat) (segs : List Segment) :
    place (line + n) segs = (place line segs).map (PlacedSegment.moveDown n) := by
  induction segs generalizing line with
  | nil => rfl
  | cons segment later ih =>
    simp only [place, List.map_cons, Nat.add_right_comm line n, ih]
    rfl

/-- A segment further down contributes its token further down. -/
theorem PlacedSegment.token?_moveDown (n : Nat) (placed : PlacedSegment) :
    (placed.moveDown n).token? = placed.token?.map (Token.moveDown n) := by
  unfold token? moveDown
  cases placed.segment.role <;> rfl

/-- A segment further down contributes its diagnostic further down. -/
theorem PlacedSegment.diagnostic?_moveDown (n : Nat) (placed : PlacedSegment) :
    (placed.moveDown n).diagnostic? = placed.diagnostic?.map (Diagnostic.moveDown n) := by
  unfold diagnostic? fault? moveDown
  cases placed.segment.role <;> rfl

/-! ## Blanks and comments -/

/-- Whether a segment only separates others. -/
def Role.isTrivia : Role → Bool
  | .blank | .lineComment | .blockComment => true
  | .token _ | .fault _ => false

/-- What separates others contributes no token. -/
theorem PlacedSegment.token?_of_isTrivia {placed : PlacedSegment}
    (trivia : placed.segment.role.isTrivia = true) : placed.token? = none := by
  unfold token?
  cases role : placed.segment.role <;> simp_all [Role.isTrivia]

/-- What separates others is no fault. -/
theorem PlacedSegment.diagnostic?_of_isTrivia {placed : PlacedSegment}
    (trivia : placed.segment.role.isTrivia = true) : placed.diagnostic? = none := by
  unfold diagnostic? fault?
  cases role : placed.segment.role <;> simp_all [Role.isTrivia]

end Lexical

/-! ## Parts of a scan -/

namespace Scan

/-- The same scan a number of lines further down. -/
def moveDown (n : Nat) (s : Scan) : Scan :=
  ⟨s.tokens.map (Token.moveDown n), s.diagnostics.map (Diagnostic.moveDown n)⟩

/-- One scan in front of another. -/
instance : Append Scan where
  append s t := ⟨s.tokens ++ t.tokens, s.diagnostics ++ t.diagnostics⟩

/-- What placed segments contribute to a scan. -/
def ofPlaced (placed : List Lexical.PlacedSegment) : Scan :=
  ⟨placed.filterMap Lexical.PlacedSegment.token?,
    placed.filterMap Lexical.PlacedSegment.diagnostic?⟩

/-- The end of the input. -/
def ending (line : Nat) : Scan :=
  ⟨[Token.endOfInput line], []⟩

theorem append_def (s t : Scan) :
    s ++ t = ⟨s.tokens ++ t.tokens, s.diagnostics ++ t.diagnostics⟩ := rfl

/-- Scans follow each other like their parts. -/
theorem append_assoc (s t u : Scan) : s ++ t ++ u = s ++ (t ++ u) := by
  simp [append_def]

/-- A scan in front of another moves down with it. -/
theorem moveDown_append (n : Nat) (s t : Scan) :
    (s ++ t).moveDown n = s.moveDown n ++ t.moveDown n := by
  simp [append_def, moveDown]

/-- Two scans have an error if one of them has. -/
@[simp] theorem hadError_append (s t : Scan) : (s ++ t).hadError = (s.hadError || t.hadError) := by
  rcases s with ⟨tokens, diagnostics⟩
  cases diagnostics <;> simp [hadError, append_def]

/-- A scan further down has the same errors. -/
@[simp] theorem hadError_moveDown (n : Nat) (s : Scan) : (s.moveDown n).hadError = s.hadError := by
  simp [hadError, moveDown]

/-- Segments behind each other contribute one behind the other. -/
theorem ofPlaced_append (earlier later : List Lexical.PlacedSegment) :
    ofPlaced (earlier ++ later) = ofPlaced earlier ++ ofPlaced later := by
  simp [append_def, ofPlaced]

/-- Segments that start further down contribute the same further down. -/
theorem ofPlaced_place_add (line n : Nat) (segs : List Lexical.Segment) :
    ofPlaced (Lexical.place (line + n) segs) =
      (ofPlaced (Lexical.place line segs)).moveDown n := by
  have tokens : Lexical.PlacedSegment.token? ∘ Lexical.PlacedSegment.moveDown n =
      fun placed => placed.token?.map (Token.moveDown n) :=
    funext (Lexical.PlacedSegment.token?_moveDown n)
  have diagnostics : Lexical.PlacedSegment.diagnostic? ∘ Lexical.PlacedSegment.moveDown n =
      fun placed => placed.diagnostic?.map (Diagnostic.moveDown n) :=
    funext (Lexical.PlacedSegment.diagnostic?_moveDown n)
  simp only [Lexical.place_add, ofPlaced, moveDown, List.filterMap_map, List.map_filterMap,
    tokens, diagnostics]

/-- Blanks and comments contribute nothing. -/
theorem ofPlaced_place_of_isTrivia {gap : List Lexical.Segment}
    (trivia : ∀ segment ∈ gap, segment.role.isTrivia = true) (line : Nat) :
    ofPlaced (Lexical.place line gap) = ⟨[], []⟩ := by
  have separates (placed) (member : placed ∈ Lexical.place line gap) :
      placed.segment.role.isTrivia = true := by
    apply trivia
    rw [← Lexical.map_segment_place line gap]
    exact List.mem_map_of_mem member
  have noTokens := List.filterMap_eq_nil_iff.2 fun placed member =>
    Lexical.PlacedSegment.token?_of_isTrivia (separates placed member)
  have noDiagnostics := List.filterMap_eq_nil_iff.2 fun placed member =>
    Lexical.PlacedSegment.diagnostic?_of_isTrivia (separates placed member)
  rw [ofPlaced, noTokens, noDiagnostics]

/-- What is scanned in front of blanks and comments stays, and what is scanned behind them
moves down by their line breaks. -/
theorem ofPlaced_place_gap {gap : List Lexical.Segment}
    (trivia : ∀ segment ∈ gap, segment.role.isTrivia = true)
    (line : Nat) (earlier later : List Lexical.Segment) :
    ofPlaced (Lexical.place line (earlier ++ gap ++ later)) =
      ofPlaced (Lexical.place line earlier) ++
        (ofPlaced (Lexical.place
          (line + Lexical.lineBreaks (earlier.flatMap Lexical.Segment.text)) later)).moveDown
          (Lexical.lineBreaks (gap.flatMap Lexical.Segment.text)) := by
  rw [Lexical.place_append, Lexical.place_append, List.flatMap_append, Lexical.lineBreaks_append,
    ← Nat.add_assoc, ofPlaced_append, ofPlaced_append, ofPlaced_place_of_isTrivia trivia,
    ofPlaced_place_add]
  simp [append_def]

end Scan

/-- A scan consists of what the segments contribute and of the end of the input. -/
theorem scan_eq_ofPlaced (source : String) :
    scan source = Scan.ofPlaced (Lexical.placedSegments source) ++
      Scan.ending (Lexical.endingLine source.toList) := by
  have parts : scan source = ⟨(scan source).tokens, (scan source).diagnostics⟩ := rfl
  have reported : (scan source).diagnostics =
      (Lexical.placedSegments source).filterMap Lexical.PlacedSegment.diagnostic? := rfl
  rw [parts, tokens_scan, reported]
  simp [Scan.append_def, Scan.ofPlaced, Scan.ending]

namespace Lexical

/-! ## Texts of blanks and comments -/

/-- Texts of blanks, of line comments with their line breaks, and of block comments with
balanced markers. -/
inductive Layout : List Char → Prop
  | nil : Layout []
  | blank {c later} :
    c ∈ [' ', '\r', '\t', '\n'] →
    Layout later →
    Layout (c :: later)
  | lineComment {body later} :
    '\n' ∉ body →
    Layout later →
    Layout ('/' :: '/' :: body ++ '\n' :: later)
  | blockComment {comment later} :
    (commentPieces comment).head? = some .opening →
    FirstBalanced (commentPieces comment) →
    Layout later →
    Layout (comment ++ later)

/-- The pieces of a text, put together again, are the text. -/
theorem flatMap_text_commentPieces (cs : List Char) :
    (commentPieces cs).flatMap CommentPiece.text = cs := by
  fun_induction commentPieces cs with
  | case1 => rfl
  | case2 cs ih | case3 cs ih | case4 c cs _ _ ih => simp [CommentPiece.text, ih]

/-- A lexeme in front of a text is its first segment. -/
theorem Lexeme.segments_append {role : Role} {text rest : List Char}
    (lexeme : Lexeme role text rest) :
    segments (text ++ rest) = ⟨text, role⟩ :: segments rest := by
  have divided : Segmentation (text ++ rest) (⟨text, role⟩ :: segments rest) :=
    segmentation_cons.2 ⟨rest, rfl, lexeme, segmentation_segments rest⟩
  exact divided.segments_eq

/-- A layout consists of blanks and comments, whatever follows it. -/
theorem Layout.exists_segments {text : List Char} (layout : Layout text) :
    ∃ gap : List Segment, gap.flatMap Segment.text = text ∧
      (∀ segment ∈ gap, segment.role.isTrivia = true) ∧
      ∀ rest, segments (text ++ rest) = gap ++ segments rest := by
  induction layout with
  | nil => exact ⟨[], rfl, by simp, fun rest => rfl⟩
  | @blank c later listed _ ih =>
    rcases ih with ⟨gap, rfl, trivia, divided⟩
    refine ⟨⟨[c], .blank⟩ :: gap, rfl, List.forall_mem_cons.2 ⟨rfl, trivia⟩, fun rest => ?_⟩
    have first : Lexeme .blank [c] (gap.flatMap Segment.text ++ rest) := .blank listed
    exact first.segments_append.trans (congrArg _ (divided rest))
  | @lineComment body later noBreak _ ih =>
    rcases ih with ⟨gap, rfl, trivia, divided⟩
    refine ⟨⟨'/' :: '/' :: body, .lineComment⟩ :: ⟨['\n'], .blank⟩ :: gap, by simp,
      List.forall_mem_cons.2 ⟨rfl, List.forall_mem_cons.2 ⟨rfl, trivia⟩⟩, fun rest => ?_⟩
    have comment : Lexeme .lineComment ('/' :: '/' :: body)
        ('\n' :: (gap.flatMap Segment.text ++ rest)) :=
      .lineComment (run_of_not_mem noBreak (by simp))
    have lineFeed : Lexeme .blank ['\n'] (gap.flatMap Segment.text ++ rest) := .blank (by simp)
    have apart : ('/' :: '/' :: body ++ '\n' :: gap.flatMap Segment.text) ++ rest =
        '/' :: '/' :: body ++ '\n' :: (gap.flatMap Segment.text ++ rest) := by
      simp
    rw [apart, comment.segments_append]
    exact congrArg _ (lineFeed.segments_append.trans (congrArg _ (divided rest)))
  | @blockComment comment later opens balanced _ ih =>
    rcases ih with ⟨gap, rfl, trivia, divided⟩
    refine ⟨⟨comment, .blockComment⟩ :: gap, rfl, List.forall_mem_cons.2 ⟨rfl, trivia⟩,
      fun rest => ?_⟩
    have read : commentPieces (comment ++ []) = commentPieces comment ++ [] := by simp
    have alone : Lexeme .blockComment comment [] :=
      .blockComment read opens balanced (flatMap_text_commentPieces comment)
    have first := lexeme_blockComment_exchange alone (gap.flatMap Segment.text ++ rest)
    rw [List.append_assoc, first.segments_append, divided]
    rfl

/-- The segments behind a part of a source are those of the text behind it. -/
theorem Segmentation.drop {cs : List Char} {earlier later : List Segment}
    (divided : Segmentation cs (earlier ++ later)) :
    Segmentation (later.flatMap Segment.text) later where
  whole := rfl
  lexemes front segment back same :=
    divided.lexemes (earlier ++ front) segment back (by simp [same])

/-- The layout between segments can be exchanged for one that begins with a blank. -/
theorem segments_layout {cs text : List Char} {earlier run later : List Segment}
    (divided : segments cs = earlier ++ run ++ later) (nonempty : run ≠ [])
    (apart : ∀ front segment, earlier = front ++ [segment] → segment.role ≠ .lineComment)
    (layout : Layout text) (parted : ∃ c ∈ text.head?, isBlank c = true) :
    ∃ gap : List Segment, gap.flatMap Segment.text = text ∧
      (∀ segment ∈ gap, segment.role.isTrivia = true) ∧
      segments (earlier.flatMap Segment.text ++ text ++ later.flatMap Segment.text) =
        earlier ++ gap ++ later := by
  have whole := segmentation_iff.2 divided.symm
  rcases layout.exists_segments with ⟨gap, spelled, trivia, separates⟩
  rcases parted with ⟨c, begins, blank⟩
  rcases List.head?_eq_some_iff.1 begins with ⟨more, rfl⟩
  refine ⟨gap, spelled, trivia, ?_⟩
  have front : Segmentation cs (earlier ++ (run ++ later)) := by
    rw [← List.append_assoc]
    exact whole
  have closed := front.isUnclosed_eq_false (by simp [nonempty])
  have unchanged := front.append_blank closed blank
    (fun before segment last comment => absurd comment (apart before segment last))
    (more ++ later.flatMap Segment.text)
  have behind : segments (c :: more ++ later.flatMap Segment.text) = gap ++ later := by
    rw [separates, whole.drop.segments_eq]
  rw [List.append_assoc, List.append_assoc, ← behind]
  exact unchanged

end Lexical

/-! ## Exchanging a layout -/

/-- What is scanned in front of blanks and comments stays, and what is scanned behind them
moves down by their line breaks. -/
theorem scan_gap {source : String} {earlier gap later : List Lexical.Segment}
    (divided : Lexical.segments source.toList = earlier ++ gap ++ later)
    (trivia : ∀ segment ∈ gap, segment.role.isTrivia = true) :
    scan source = Scan.ofPlaced (Lexical.place 1 earlier) ++
      (Scan.ofPlaced
        (Lexical.place (1 + Lexical.lineBreaks (earlier.flatMap Lexical.Segment.text)) later) ++
        Scan.ending (Lexical.endingLine
          (earlier.flatMap Lexical.Segment.text ++ later.flatMap Lexical.Segment.text))).moveDown
        (Lexical.lineBreaks (gap.flatMap Lexical.Segment.text)) := by
  have whole := Lexical.flatMap_text_segments source.toList
  rw [divided] at whole
  have placed : Lexical.placedSegments source = Lexical.place 1 (earlier ++ gap ++ later) :=
    congrArg (Lexical.place 1) divided
  have last : Lexical.endingLine source.toList =
      Lexical.endingLine
        (earlier.flatMap Lexical.Segment.text ++ later.flatMap Lexical.Segment.text) +
        Lexical.lineBreaks (gap.flatMap Lexical.Segment.text) := by
    rw [← whole]
    simp only [Lexical.endingLine, List.flatMap_append, Lexical.lineBreaks_append]
    omega
  rw [scan_eq_ofPlaced, placed, Scan.ofPlaced_place_gap trivia, last, Scan.moveDown_append,
    Scan.append_assoc]
  rfl

/-- Blanks and comments between tokens do not matter.  A run of them with no line comment in
front of it, such as a longest run, can be exchanged for any layout that begins with a blank.
What is scanned in front of it stays as it is, and what is scanned behind it only moves,
according to the line breaks of the run and of the layout. -/
theorem scan_layout {source : String} {earlier run later : List Lexical.Segment}
    {text : List Char} (divided : Lexical.segments source.toList = earlier ++ run ++ later)
    (nonempty : run ≠ []) (trivia : ∀ segment ∈ run, segment.role.isTrivia = true)
    (apart : ∀ front segment, earlier = front ++ [segment] → segment.role ≠ .lineComment)
    (layout : Lexical.Layout text) (parted : ∃ c ∈ text.head?, Lexical.isBlank c = true) :
    let exchanged := String.ofList (earlier.flatMap Lexical.Segment.text ++ text ++
      later.flatMap Lexical.Segment.text)
    let before := Scan.ofPlaced (Lexical.place 1 earlier)
    ∃ behind : Scan,
      scan source =
        before ++ behind.moveDown (Lexical.lineBreaks (run.flatMap Lexical.Segment.text)) ∧
      scan exchanged = before ++ behind.moveDown (Lexical.lineBreaks text) ∧
      (scan exchanged).hadError = (scan source).hadError := by
  intro exchanged before
  rcases Lexical.segments_layout divided nonempty apart layout parted with
    ⟨gap, rfl, separates, exchange⟩
  have divided' : Lexical.segments exchanged.toList = earlier ++ gap ++ later := by
    rw [String.toList_ofList, exchange]
  have former := scan_gap divided trivia
  have latter := scan_gap divided' separates
  refine ⟨_, former, latter, ?_⟩
  rw [former, latter]
  simp

/-- A name, a comment over three lines and a mark, with a shorter comment in exchange. -/
theorem scan_layout_comment :
    let name : Lexical.Segment := ⟨['a'], .token .identifier⟩
    let exchanged := String.ofList (['a'] ++ [' ', '/', '/', '\n'] ++ ['+'])
    ∃ behind : Scan,
      scan "a/*\n\n*/+" = Scan.ofPlaced (Lexical.place 1 [name]) ++ behind.moveDown 2 ∧
      scan exchanged = Scan.ofPlaced (Lexical.place 1 [name]) ++ behind.moveDown 1 ∧
      (scan exchanged).hadError = (scan "a/*\n\n*/+").hadError := by
  intro name exchanged
  have divided : Lexical.segments "a/*\n\n*/+".toList = [name] ++
      [⟨['/', '*', '\n', '\n', '*', '/'], .blockComment⟩] ++ [⟨['+'], .token (.mark .plus)⟩] := by
    decide +kernel
  have apart (front) (segment : Lexical.Segment) (last : [name] = front ++ [segment]) :
      segment.role ≠ .lineComment := by
    obtain ⟨_, rfl⟩ : front = [] ∧ segment = name := by
      simpa [List.singleton_eq_append_iff] using last
    nofun
  have layout : Lexical.Layout [' ', '/', '/', '\n'] :=
    .blank (by simp) (.lineComment List.not_mem_nil .nil)
  have former : Lexical.lineBreaks ['/', '*', '\n', '\n', '*', '/'] = 2 := by decide
  have latter : Lexical.lineBreaks [' ', '/', '/', '\n'] = 1 := by decide
  have scans := scan_layout divided (by simp) (by simp [Lexical.Role.isTrivia]) apart layout
    ⟨' ', rfl, rfl⟩
  simpa only [List.flatMap_cons, List.flatMap_nil, List.append_nil, former, latter] using scans

end LoxExpr
