import LoxExpr.Proofs.Lexical.Comment

/-!
# Lexemes

The lexical grammar, stated without a scanner: which stretches of a source belong
together, what they contribute, and what must not follow them.  Runs are maximal, the
longer of two marks is taken, and a block comment ends where its markers are balanced.

Main results:

- Theorem `lexeme_cut`: the first segment of a source is a lexeme.
- Theorem `Lexeme.cut_eq`: a lexeme in front of what follows it is the first segment.
- Theorem `Lexeme.unique`: a source starts with one lexeme only.
-/

namespace LoxExpr.Lexical

/-! ## Runs -/

/-- A text that satisfies a predicate and is not followed by more of it. -/
structure Run (accepts : Char → Bool) (text rest : List Char) : Prop where
  inside : ∀ c ∈ text, accepts c = true
  stops : ∀ c ∈ rest.head?, accepts c = false

/-- The characters in front of the first that does not satisfy a predicate are a run. -/
theorem run_takeWhile (accepts : Char → Bool) (cs : List Char) :
    Run accepts (cs.takeWhile accepts) (cs.dropWhile accepts) where
  inside := List.all_eq_true.1 List.all_takeWhile
  stops c first := by
    have stopped := List.head?_dropWhile_not accepts cs
    rw [Option.mem_def.1 first] at stopped
    exact stopped

/-- A run is what is taken from a text. -/
theorem Run.takeWhile_append {accepts : Char → Bool} {text rest : List Char}
    (run : Run accepts text rest) : (text ++ rest).takeWhile accepts = text := by
  rw [List.takeWhile_append_of_pos run.inside]
  cases rest with
  | nil => simp
  | cons c rest => simp [run.stops c rfl]

/-- What follows a run is what remains of a text. -/
theorem Run.dropWhile_append {accepts : Char → Bool} {text rest : List Char}
    (run : Run accepts text rest) : (text ++ rest).dropWhile accepts = rest := by
  rw [List.dropWhile_append_of_pos run.inside]
  cases rest with
  | nil => rfl
  | cons c rest => simp [run.stops c rfl]

/-- What does not contain a character is a run in front of that character. -/
theorem run_of_not_mem {d : Char} {text rest : List Char} (absent : d ∉ text)
    (ends : ∀ c ∈ rest.head?, c = d) : Run (· != d) text rest := by
  constructor
  · intro c member
    have different : c ≠ d := fun same => absent (same ▸ member)
    simpa using different
  · intro c first
    simpa using ends c first

/-! ## The lexical grammar -/

/-- The lexemes with their roles, in front of what follows them in a source. -/
inductive Lexeme : Role → List Char → List Char → Prop
  | blank {c rest} :
    c ∈ [' ', '\r', '\t', '\n'] →
    Lexeme .blank [c] rest
  | lineComment {body rest} :
    Run (· != '\n') body rest →
    Lexeme .lineComment ('/' :: '/' :: body) rest
  | blockComment {pieces later text rest} :
    commentPieces (text ++ rest) = pieces ++ later →
    pieces.head? = some .opening →
    FirstBalanced pieces →
    pieces.flatMap CommentPiece.text = text →
    Lexeme .blockComment text rest
  | mark {mark rest} :
    (∀ long, mark.withEqual? = some long → rest.head? ≠ some '=') →
    (mark = .slash → rest.head? ≠ some '/' ∧ rest.head? ≠ some '*') →
    Lexeme (.token (.mark mark)) mark.spelling.toList rest
  | string {value rest} :
    '"' ∉ value →
    Lexeme (.token (.string (String.ofList value))) ('"' :: value ++ ['"']) rest
  | whole {digits rest} :
    digits ≠ [] →
    Run Char.isDigit digits rest →
    (∀ d later, rest = '.' :: d :: later → d.isDigit = false) →
    Lexeme (.token (.number (.ofNumeral digits))) digits rest
  | fraction {digits decimals text rest} :
    digits ≠ [] →
    (∀ d ∈ digits, d.isDigit = true) →
    decimals ≠ [] →
    Run Char.isDigit decimals rest →
    digits ++ '.' :: decimals = text →
    Lexeme (.token (.number (.ofNumeral text))) text rest
  | keyword {keyword c tail rest} :
    keyword.spelling.toList = c :: tail →
    Text.isAlphabetic c = true →
    Run continuesWord tail rest →
    Lexeme (.token (.keyword keyword)) (c :: tail) rest
  | identifier {c tail rest} :
    (∀ keyword : Keyword, keyword.spelling.toList ≠ c :: tail) →
    Text.isAlphabetic c = true →
    Run continuesWord tail rest →
    Lexeme (.token .identifier) (c :: tail) rest
  | unexpectedCharacter {c rest} :
    c ∉ [' ', '\r', '\t', '\n', '"'] →
    c.isDigit = false →
    Text.isAlphabetic c = false →
    (∀ mark : Mark, mark.spelling.toList ≠ [c]) →
    Lexeme (.fault (.unexpectedCharacter c)) [c] rest
  | unterminatedString {body} :
    '"' ∉ body →
    Lexeme (.fault .unterminatedString) ('"' :: body) []
  | unterminatedBlockComment {text} :
    (commentPieces text).head? = some .opening →
    (∀ pieces, pieces <+: commentPieces text → pieces ≠ [] → ¬Closes 0 pieces) →
    Lexeme (.fault .unterminatedBlockComment) text []

/-! ## What the first character decides -/

/-- The blanks are the four characters. -/
theorem isBlank_iff {c : Char} : isBlank c = true ↔ c ∈ [' ', '\r', '\t', '\n'] := by
  simp [isBlank, or_assoc]

theorem cut_slash (cs : List Char) : cut '/' cs = cutSlash cs := rfl

theorem cut_quote (cs : List Char) : cut '"' cs = cutString cs := rfl

/-- The characters that begin blanks, comments and strings. -/
def leading : List Char :=
  [' ', '\r', '\t', '\n', '/', '"']

/-- What begins neither a blank, nor a comment, nor a string is decided by its class. -/
theorem cut_of_not_mem {c : Char} (other : c ∉ leading) (cs : List Char) :
    cut c cs =
      if c.isDigit then cutNumeral c cs
      else if Text.isAlphabetic c then cutWord c cs
      else
        match Mark.ofChar? c with
        | some mark => cutMark mark cs
        | none => ⟨.fault (.unexpectedCharacter c), [], cs⟩ := by
  simp only [leading, List.mem_cons, List.not_mem_nil, or_false, not_or] at other
  rcases other with ⟨space, carriageReturn, tab, lineFeed, slash, quote⟩
  have notBlank : ¬isBlank c = true := by
    simp [isBlank, space, carriageReturn, tab, lineFeed]
  exact (if_neg notBlank).trans ((if_neg slash).trans (if_neg quote))

/-- A character of a class is not among characters that are not in the class. -/
theorem not_mem_of_all {accepts : Char → Bool} {c : Char} {others : List Char}
    (h : accepts c = true) (apart : others.all (fun d => !accepts d) = true) : c ∉ others := by
  intro listed
  have rejected := List.all_eq_true.1 apart c listed
  simp [h] at rejected

/-- A digit begins a numeral. -/
theorem cut_of_isDigit {c : Char} (h : c.isDigit = true) (cs : List Char) :
    cut c cs = cutNumeral c cs := by
  have apart : leading.all (fun d => !d.isDigit) = true := rfl
  rw [cut_of_not_mem (not_mem_of_all h apart)]
  exact if_pos h

/-- Digits are not alphabetic. -/
theorem isAlphabetic_of_isDigit {c : Char} (h : c.isDigit = true) :
    Text.isAlphabetic c = false := by
  have range : 48 ≤ c.toNat ∧ c.toNat ≤ 57 := Char.isDigit_iff_toNat.1 h
  have notUpper : c.isUpper = false := by
    apply Bool.eq_false_iff.2
    intro upper
    have least : 65 ≤ c.toNat := (of_decide_eq_true upper).1
    omega
  have notLower : c.isLower = false := by
    apply Bool.eq_false_iff.2
    intro lower
    have least : 97 ≤ c.toNat := of_decide_eq_true (Bool.and_eq_true_iff.1 lower).1
    omega
  rw [Text.isAlphabetic_of_lt (by omega)]
  exact Bool.or_eq_false_iff.2 ⟨notUpper, notLower⟩

/-- An alphabetic character begins a word. -/
theorem cut_of_isAlphabetic {c : Char} (h : Text.isAlphabetic c = true) (cs : List Char) :
    cut c cs = cutWord c cs := by
  have apart : leading.all (fun d => !Text.isAlphabetic d) = true := rfl
  have notDigit : ¬c.isDigit = true := by
    intro digit
    simp [isAlphabetic_of_isDigit digit] at h
  rw [cut_of_not_mem (not_mem_of_all h apart), if_neg notDigit]
  exact if_pos h

/-- The marks of one character are found by it. -/
theorem map_ofChar?_spelling (mark : Mark) (single : mark.spelling.toList.length = 1) :
    mark.spelling.toList.map Mark.ofChar? = [some mark] := by
  revert single
  cases mark <;> decide +kernel

/-- A mark is found by its character. -/
theorem ofChar?_eq_some_iff {c : Char} {mark : Mark} :
    Mark.ofChar? c = some mark ↔ mark.spelling.toList = [c] := by
  constructor
  · intro found
    have := List.find?_some found
    simpa using this
  · intro spelled
    have listed := map_ofChar?_spelling mark (by simp [spelled])
    rw [spelled] at listed
    exact (List.cons.inj listed).1

/-- The marks of one character are in no other class, the slash excepted. -/
theorem mark_apart (mark : Mark) (other : mark ≠ .slash)
    (single : mark.spelling.toList.length = 1) :
    mark.spelling.toList.all (fun c =>
      !leading.elem c && (!c.isDigit && !Text.isAlphabetic c)) = true := by
  revert other single
  cases mark <;> decide +kernel

/-- What begins a mark begins nothing else, slashes excepted. -/
theorem cut_of_spelling {c : Char} {mark : Mark} (h : mark.spelling.toList = [c])
    (other : mark ≠ .slash) (cs : List Char) : cut c cs = cutMark mark cs := by
  have apart := mark_apart mark other (by simp [h])
  simp only [h, List.all_cons, List.all_nil, Bool.and_true, Bool.and_eq_true, Bool.not_eq_true',
    List.elem_eq_mem, decide_eq_false_iff_not] at apart
  rcases apart with ⟨notListed, notDigit, notAlphabetic⟩
  rw [cut_of_not_mem notListed]
  simp [notDigit, notAlphabetic, ofChar?_eq_some_iff.2 h]

/-! ## Cuts are lexemes -/

/-- What a slash begins is a lexeme. -/
theorem lexeme_cutSlash (cs : List Char) :
    Lexeme (cutSlash cs).role ('/' :: (cutSlash cs).tail) (cutSlash cs).rest := by
  fun_cases cutSlash cs with
  | case1 cs => exact .lineComment (run_takeWhile _ cs)
  | case2 cs tail rest closed =>
    rcases blockCommentTail?_eq_some closed with ⟨pieces, whole, text, first⟩
    have spelled : tail ++ rest = cs := blockCommentTail?_append closed
    have read : commentPieces ('/' :: '*' :: tail ++ rest) =
        (.opening :: pieces) ++ commentPieces rest := by
      simp [spelled, commentPieces, whole]
    exact .blockComment read rfl (firstBalanced_opening.2 first) (by simp [CommentPiece.text, text])
  | case3 cs unclosed =>
    apply Lexeme.unterminatedBlockComment rfl
    intro pieces begins nonempty balanced
    rcases List.prefix_cons_iff.1 begins with rfl | ⟨later, rfl, laterBegins⟩
    · contradiction
    · exact blockCommentTail?_eq_none unclosed later laterBegins (closes_opening.1 balanced)
  | case4 cs notLine notBlock =>
    have noLine : cs.head? ≠ some '/' := by
      intro first
      rcases List.head?_eq_some_iff.1 first with ⟨later, rfl⟩
      exact notLine later rfl
    have noBlock : cs.head? ≠ some '*' := by
      intro first
      rcases List.head?_eq_some_iff.1 first with ⟨later, rfl⟩
      exact notBlock later rfl
    have lexeme : Lexeme (.token (.mark .slash)) (Mark.spelling .slash).toList cs := by
      refine .mark ?_ fun _ => ⟨noLine, noBlock⟩
      intro long longer
      contradiction
    exact lexeme

/-- What a quote begins is a lexeme. -/
theorem lexeme_cutString (cs : List Char) :
    Lexeme (cutString cs).role ('"' :: (cutString cs).tail) (cutString cs).rest := by
  have run := run_takeWhile (· != '"') cs
  have whole : cs.takeWhile (· != '"') ++ cs.dropWhile (· != '"') = cs :=
    List.takeWhile_append_dropWhile
  have noQuote : '"' ∉ cs.takeWhile (· != '"') := by
    intro member
    have := run.inside _ member
    simp at this
  unfold cutString
  simp only
  split
  next remainder =>
    rw [remainder, List.append_nil] at whole
    rw [whole] at noQuote
    exact .unterminatedString noQuote
  next quote rest remainder =>
    rw [remainder] at run
    obtain rfl : quote = '"' := by simpa using run.stops quote rfl
    exact .string noQuote

/-- What a digit begins is a lexeme. -/
theorem lexeme_cutNumeral {c : Char} (h : c.isDigit = true) (cs : List Char) :
    Lexeme (cutNumeral c cs).role (c :: (cutNumeral c cs).tail) (cutNumeral c cs).rest := by
  have run := run_takeWhile Char.isDigit cs
  have digits : ∀ d ∈ c :: cs.takeWhile Char.isDigit, d.isDigit = true :=
    List.forall_mem_cons.2 ⟨h, run.inside⟩
  have wholeRun : Run Char.isDigit (c :: cs.takeWhile Char.isDigit) (cs.dropWhile Char.isDigit) :=
    ⟨digits, run.stops⟩
  unfold cutNumeral numeralTail
  simp only
  split
  next d rest remainder =>
    rw [remainder] at wholeRun
    split
    next digit =>
      have decimals : Run Char.isDigit (d :: rest.takeWhile Char.isDigit)
          (rest.dropWhile Char.isDigit) :=
        ⟨List.forall_mem_cons.2 ⟨digit, (run_takeWhile _ rest).inside⟩,
          (run_takeWhile _ rest).stops⟩
      exact .fraction (List.cons_ne_nil _ _) digits (List.cons_ne_nil _ _) decimals rfl
    next noDigit =>
      apply Lexeme.whole (List.cons_ne_nil _ _) wholeRun
      intro d' later same
      obtain ⟨rfl, rfl⟩ : d = d' ∧ rest = later := by simpa using same
      simpa using noDigit
  next noPoint =>
    exact .whole (List.cons_ne_nil _ _) wholeRun fun d later same => absurd same (noPoint d later)

/-- What a letter begins is a lexeme. -/
theorem lexeme_cutWord {c : Char} (h : Text.isAlphabetic c = true) (cs : List Char) :
    Lexeme (cutWord c cs).role (c :: (cutWord c cs).tail) (cutWord c cs).rest := by
  have run := run_takeWhile continuesWord cs
  unfold cutWord
  simp only
  split
  next keyword found =>
    have spelled := Keyword.ofSpelling?_eq_some_iff.1 found
    exact .keyword (by simp [spelled]) h run
  next missing =>
    refine .identifier (fun keyword spelled => ?_) h run
    have found : Keyword.ofSpelling? (String.ofList (c :: cs.takeWhile continuesWord)) =
        some keyword := by
      rw [Keyword.ofSpelling?_eq_some_iff, ← spelled, String.ofList_toList]
    rw [missing] at found
    contradiction

/-- What the character of a mark begins is a lexeme. -/
theorem lexeme_cutMark {c : Char} {mark : Mark} (h : mark.spelling.toList = [c])
    (other : mark ≠ .slash) (cs : List Char) :
    Lexeme (cutMark mark cs).role (c :: (cutMark mark cs).tail) (cutMark mark cs).rest := by
  fun_cases cutMark mark cs with
  | case1 long rest longer =>
    have spelled : long.spelling.toList = [c, '='] := by
      rw [Mark.spelling_withEqual? longer, String.toList_append, h]
      rfl
    have lexeme : Lexeme (.token (.mark long)) long.spelling.toList rest := by
      cases mark <;> cases longer <;> exact .mark nofun nofun
    rw [spelled] at lexeme
    exact lexeme
  | case2 _ short =>
    have lexeme : Lexeme (.token (.mark mark)) mark.spelling.toList cs := by
      refine .mark (fun long longer first => ?_) fun same => absurd same other
      rcases List.head?_eq_some_iff.1 first with ⟨later, rfl⟩
      exact short long later longer rfl
    rw [h] at lexeme
    exact lexeme

/-- The first segment of a source is a lexeme. -/
theorem lexeme_cut (c : Char) (cs : List Char) :
    Lexeme (cut c cs).role (c :: (cut c cs).tail) (cut c cs).rest := by
  fun_cases cut c cs with
  | case1 blank => exact .blank (isBlank_iff.1 blank)
  | case2 _ slash =>
    rw [slash]
    exact lexeme_cutSlash cs
  | case3 _ _ quote =>
    rw [quote]
    exact lexeme_cutString cs
  | case4 _ _ _ digit => exact lexeme_cutNumeral digit cs
  | case5 _ _ _ _ letter => exact lexeme_cutWord letter cs
  | case6 _ notSlash _ _ _ mark found =>
    have spelled := ofChar?_eq_some_iff.1 found
    refine lexeme_cutMark spelled ?_ cs
    intro equal
    subst equal
    have slash : ['/'] = [c] := spelled
    exact notSlash (List.cons.inj slash).1.symm
  | case7 notBlank notSlash notQuote notDigit notLetter missing =>
    refine .unexpectedCharacter ?_ (by simpa using notDigit) (by simpa using notLetter) ?_
    · intro listed
      have : c ∈ [' ', '\r', '\t', '\n'] ∨ c = '"' := by simpa [or_assoc] using listed
      rcases this with blank | quote
      · exact notBlank (isBlank_iff.2 blank)
      · exact notQuote quote
    · intro mark spelled
      rw [ofChar?_eq_some_iff.2 spelled] at missing
      contradiction

/-! ## Lexemes are cuts -/

/-- A block comment that is closed is what a slash begins. -/
theorem cutSlash_of_firstCloses {cs tail rest : List Char} {pieces later : List CommentPiece}
    (whole : tail ++ rest = cs) (read : commentPieces cs = pieces ++ later)
    (first : FirstCloses 1 pieces) (spelled : pieces.flatMap CommentPiece.text = tail) :
    cutSlash ('*' :: cs) = ⟨.blockComment, '*' :: tail, rest⟩ := by
  have begins : pieces <+: commentPieces cs := ⟨later, read.symm⟩
  cases found : blockCommentTail? 0 cs with
  | none => exact absurd first.1 (blockCommentTail?_eq_none found pieces begins)
  | some divided =>
    rcases divided with ⟨tail', rest'⟩
    rcases blockCommentTail?_eq_some found with ⟨pieces', read', spelled', first'⟩
    -- Both are first places of one reading, and their characters divide one text.
    have begins' : pieces' <+: commentPieces cs := ⟨commentPieces rest', read'.symm⟩
    obtain rfl := first.unique first' begins begins'
    obtain rfl : tail = tail' := spelled.symm.trans spelled'
    have whole' := blockCommentTail?_append found
    obtain rfl : rest = rest' := List.append_cancel_left (whole.trans whole'.symm)
    simp [cutSlash, found]

/-- A block comment that is not closed is what a slash begins. -/
theorem cutSlash_of_not_closes {cs : List Char}
    (unclosed : ∀ pieces, pieces <+: commentPieces cs → ¬Closes 1 pieces) :
    cutSlash ('*' :: cs) = ⟨.fault .unterminatedBlockComment, '*' :: cs, []⟩ := by
  cases found : blockCommentTail? 0 cs with
  | none => simp [cutSlash, found]
  | some divided =>
    rcases divided with ⟨tail, rest⟩
    rcases blockCommentTail?_eq_some found with ⟨pieces, read, _, first⟩
    exact absurd first.1 (unclosed pieces ⟨commentPieces rest, read.symm⟩)

/-- A mark is one character, or it is the longer form of one. -/
theorem spelling_cases (mark : Mark) :
    (∃ c, mark.spelling.toList = [c]) ∨
      ∃ (base : Mark) (c : Char), base.withEqual? = some mark ∧ base.spelling.toList = [c] := by
  cases mark with
  | bangEqual => exact .inr ⟨.bang, '!', rfl, rfl⟩
  | equalEqual => exact .inr ⟨.equal, '=', rfl, rfl⟩
  | greaterEqual => exact .inr ⟨.greater, '>', rfl, rfl⟩
  | lessEqual => exact .inr ⟨.less, '<', rfl, rfl⟩
  | _ => exact .inl ⟨_, rfl⟩

/-- A mark that no equals sign makes longer is cut as it is. -/
theorem cutMark_of_ne {mark : Mark} {rest : List Char}
    (short : ∀ long, mark.withEqual? = some long → rest.head? ≠ some '=') :
    cutMark mark rest = ⟨.token (.mark mark), [], rest⟩ := by
  fun_cases cutMark mark rest with
  | case1 long later longer => exact absurd rfl (short long longer)
  | case2 => rfl

/-- A slash that begins no comment is cut as a mark. -/
theorem cutSlash_of_ne {rest : List Char} (noLine : rest.head? ≠ some '/')
    (noBlock : rest.head? ≠ some '*') : cutSlash rest = ⟨.token (.mark .slash), [], rest⟩ := by
  fun_cases cutSlash rest with
  | case1 => contradiction
  | case2 => contradiction
  | case3 => contradiction
  | case4 => rfl

/-- A mark in front of what follows it is what its first character begins. -/
theorem cut_of_mark {mark : Mark} {rest : List Char}
    (short : ∀ long, mark.withEqual? = some long → rest.head? ≠ some '=')
    (noComment : mark = .slash → rest.head? ≠ some '/' ∧ rest.head? ≠ some '*') :
    ∃ c tail, mark.spelling.toList = c :: tail ∧
      cut c (tail ++ rest) = ⟨.token (.mark mark), tail, rest⟩ := by
  rcases spelling_cases mark with ⟨c, spelled⟩ | ⟨base, c, longer, spelled⟩
  · refine ⟨c, [], spelled, ?_⟩
    by_cases slash : mark = .slash
    · subst slash
      rcases noComment rfl with ⟨noLine, noBlock⟩
      obtain rfl : '/' = c := (List.cons.inj spelled).1
      exact cutSlash_of_ne noLine noBlock
    · exact (cut_of_spelling spelled slash rest).trans (cutMark_of_ne short)
  · refine ⟨c, ['='], ?_, ?_⟩
    · rw [Mark.spelling_withEqual? longer, String.toList_append, spelled]
      rfl
    · have notSlash : base ≠ .slash := by
        intro equal
        subst equal
        contradiction
      rw [cut_of_spelling spelled notSlash]
      simp [cutMark, longer]

/-- A string in front of what follows it is what a quote begins. -/
theorem cutString_append {value : List Char} (noQuote : '"' ∉ value) (rest : List Char) :
    cutString (value ++ '"' :: rest) =
      ⟨.token (.string (String.ofList value)), value ++ ['"'], rest⟩ := by
  have run : Run (· != '"') value ('"' :: rest) := run_of_not_mem noQuote (by simp)
  simp [cutString, run.takeWhile_append, run.dropWhile_append]

/-- A string that is not closed is what a quote begins. -/
theorem cutString_of_not_mem {body : List Char} (noQuote : '"' ∉ body) :
    cutString body = ⟨.fault .unterminatedString, body, []⟩ := by
  have run : Run (· != '"') body [] := run_of_not_mem noQuote (by simp)
  have remains := run.dropWhile_append
  rw [List.append_nil] at remains
  simp [cutString, remains]

/-- Digits in front of no decimals are what the first of them begins. -/
theorem numeralTail_of_run {digits rest : List Char} (run : Run Char.isDigit digits rest)
    (noDecimals : ∀ d later, rest = '.' :: d :: later → d.isDigit = false) :
    numeralTail (digits ++ rest) = (digits, rest) := by
  unfold numeralTail
  simp only [run.takeWhile_append, run.dropWhile_append]
  split
  next d later => simp [noDecimals d later rfl]
  next => rfl

/-- Digits and decimals are what the first of the digits begins. -/
theorem numeralTail_of_decimals {digits decimals rest : List Char}
    (inside : ∀ d ∈ digits, d.isDigit = true) (nonempty : decimals ≠ [])
    (run : Run Char.isDigit decimals rest) :
    numeralTail (digits ++ '.' :: decimals ++ rest) = (digits ++ '.' :: decimals, rest) := by
  have digitsRun : Run Char.isDigit digits ('.' :: (decimals ++ rest)) := ⟨inside, by simp⟩
  rcases List.exists_cons_of_ne_nil nonempty with ⟨d, decimals, rfl⟩
  rcases List.forall_mem_cons.1 run.inside with ⟨digit, further⟩
  have furtherRun : Run Char.isDigit decimals rest := ⟨further, run.stops⟩
  have apart : digits ++ '.' :: (d :: decimals) ++ rest =
      digits ++ '.' :: (d :: decimals ++ rest) := by
    simp
  rw [apart]
  unfold numeralTail
  simp only [digitsRun.takeWhile_append, digitsRun.dropWhile_append]
  simp only [List.cons_append, if_pos digit, furtherRun.takeWhile_append,
    furtherRun.dropWhile_append]

/-- A lexeme in front of what follows it is the first segment. -/
theorem Lexeme.cut_eq {role : Role} {text rest : List Char} (lexeme : Lexeme role text rest) :
    ∃ c tail, text = c :: tail ∧ cut c (tail ++ rest) = ⟨role, tail, rest⟩ := by
  cases lexeme with
  | @blank c _ blank => exact ⟨c, [], rfl, if_pos (isBlank_iff.2 blank)⟩
  | @lineComment body _ run =>
    refine ⟨'/', '/' :: body, rfl, ?_⟩
    simp [cut_slash, cutSlash, run.takeWhile_append, run.dropWhile_append]
  | @blockComment pieces later _ _ read opens first spelled =>
    rcases List.head?_eq_some_iff.1 opens with ⟨after, rfl⟩
    obtain ⟨tail, rfl⟩ : ∃ tail, text = '/' :: '*' :: tail := ⟨_, spelled.symm⟩
    refine ⟨'/', '*' :: tail, rfl, ?_⟩
    have readAfter : commentPieces (tail ++ rest) = after ++ later := by
      simpa [commentPieces] using read
    have spelledAfter : after.flatMap CommentPiece.text = tail := by
      simpa [CommentPiece.text] using spelled
    exact cutSlash_of_firstCloses rfl readAfter (firstBalanced_opening.1 first) spelledAfter
  | mark short noComment => exact cut_of_mark short noComment
  | @string value _ noQuote =>
    refine ⟨'"', value ++ ['"'], rfl, ?_⟩
    rw [cut_quote, List.append_assoc]
    exact cutString_append noQuote rest
  | whole nonempty run noDecimals =>
    rcases List.exists_cons_of_ne_nil nonempty with ⟨c, digits, rfl⟩
    rcases List.forall_mem_cons.1 run.inside with ⟨digit, further⟩
    refine ⟨c, digits, rfl, ?_⟩
    rw [cut_of_isDigit digit, cutNumeral, numeralTail_of_run ⟨further, run.stops⟩ noDecimals]
  | @fraction _ decimals _ _ nonempty inside decimalsNonempty run spelled =>
    rcases List.exists_cons_of_ne_nil nonempty with ⟨c, digits, rfl⟩
    rcases List.forall_mem_cons.1 inside with ⟨digit, further⟩
    refine ⟨c, digits ++ '.' :: decimals, spelled.symm, ?_⟩
    rw [cut_of_isDigit digit, cutNumeral, numeralTail_of_decimals further decimalsNonempty run,
      ← spelled]
    rfl
  | @keyword keyword c tail _ spelled letter run =>
    refine ⟨c, tail, rfl, ?_⟩
    have found : Keyword.ofSpelling? (String.ofList (c :: tail)) = some keyword := by
      rw [Keyword.ofSpelling?_eq_some_iff, ← spelled, String.ofList_toList]
    rw [cut_of_isAlphabetic letter]
    simp only [cutWord, run.takeWhile_append, run.dropWhile_append, found]
  | @identifier c tail _ noKeyword letter run =>
    refine ⟨c, tail, rfl, ?_⟩
    have missing : Keyword.ofSpelling? (String.ofList (c :: tail)) = none := by
      cases found : Keyword.ofSpelling? (String.ofList (c :: tail)) with
      | none => rfl
      | some keyword =>
        have spelled := Keyword.ofSpelling?_eq_some_iff.1 found
        exact absurd (by simp [spelled]) (noKeyword keyword)
    rw [cut_of_isAlphabetic letter]
    simp only [cutWord, run.takeWhile_append, run.dropWhile_append, missing]
  | @unexpectedCharacter c _ other notDigit notLetter noMark =>
    refine ⟨c, [], rfl, ?_⟩
    have notSlash : c ≠ '/' := by
      intro equal
      subst equal
      exact noMark .slash rfl
    have missing : Mark.ofChar? c = none := by
      cases found : Mark.ofChar? c with
      | none => rfl
      | some mark => exact absurd (ofChar?_eq_some_iff.1 found) (noMark mark)
    have apart : c ∉ leading := by
      simpa [leading, notSlash] using other
    rw [cut_of_not_mem apart]
    simp [notDigit, notLetter, missing]
  | @unterminatedString body noQuote =>
    refine ⟨'"', body, rfl, ?_⟩
    rw [cut_quote, List.append_nil]
    exact cutString_of_not_mem noQuote
  | @unterminatedBlockComment text opens unbalanced =>
    rcases head?_commentPieces.1 opens with ⟨inner, rfl⟩
    refine ⟨'/', '*' :: inner, rfl, ?_⟩
    rw [cut_slash, List.append_nil]
    apply cutSlash_of_not_closes
    intro pieces begins closes
    refine unbalanced (.opening :: pieces) ?_ (List.cons_ne_nil _ _) (closes_opening.2 closes)
    exact (List.prefix_cons_inj _).2 begins

/-- A source starts with one lexeme only, in one role. -/
theorem Lexeme.unique {role other : Role} {text rest text' rest' : List Char}
    (first : Lexeme role text rest) (second : Lexeme other text' rest')
    (same : text ++ rest = text' ++ rest') : role = other ∧ text = text' ∧ rest = rest' := by
  rcases first.cut_eq with ⟨c, tail, rfl, taken⟩
  rcases second.cut_eq with ⟨d, tail', rfl, taken'⟩
  obtain ⟨rfl, (remains : tail ++ rest = tail' ++ rest')⟩ := List.cons.inj same
  rw [remains, taken'] at taken
  cases taken
  exact ⟨rfl, rfl, rfl⟩

end LoxExpr.Lexical
