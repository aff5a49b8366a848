import LoxExpr.Proofs.Expr.Legible

/-!
# Reading dumps

The dump of a source can be read back, one entry after the other.  The name of a kind tells
where the lexeme behind it ends: a string ends at its second quote, whatever blanks and line
breaks it contains, and every other lexeme is free of blanks.  Kind and lexeme determine the
token up to its line.  The token in turn tells how long the text of its value is, so the next
entry is found even behind a value that looks like entries itself.

Main results:

- Theorem `Token.Recognizable.readEntry?_append`: an entry is read back in front of any text.
- Theorem `recognizable_of_mem_scan`: the tokens of a scan can be read back.
- Theorem `dumpAll_eq_iff`: two sources have the same dump exactly if their tokens are the same
  up to their lines.
-/

namespace LoxExpr

/-! ## Kinds and lexemes -/

namespace Kind

/-- The symbol of a kind that has a lexeme. -/
def symbol (kind : Kind) (lexeme : List Char) : Symbol :=
  match kind with
  | .mark m => .mark m
  | .keyword k => .keyword k
  | .identifier => .identifier
  | .string => .string (String.ofList lexeme.tail.dropLast)
  | .number => .number (.ofNumeral lexeme)
  | .endOfInput => .endOfInput

/-- Divides a text that begins with a lexeme of a kind.  A string ends behind its second quote,
and every other lexeme in front of a blank. -/
def divide (kind : Kind) (text : List Char) : List Char × List Char :=
  match kind with
  | .string =>
    ('"' :: text.tail.takeWhile (· != '"') ++ ['"'], (text.tail.dropWhile (· != '"')).tail)
  | _ => (text.takeWhile (· != ' '), text.dropWhile (· != ' '))

/-- There is no blank in the name of a kind. -/
theorem blank_not_mem_name (kind : Kind) : ' ' ∉ kind.name.toList := by
  cases kind with
  | mark m => cases m <;> decide
  | keyword k => cases k <;> decide
  | _ => decide

end Kind

namespace Token

/-- Whether a token is told by its kind and a text that begins with its lexeme and a blank. -/
structure Recognizable (t : Token) : Prop where
  divide_append : ∀ rest,
    t.kind.divide (t.lexeme.toList ++ ' ' :: rest) = (t.lexeme.toList, ' ' :: rest)
  symbol_eq : t.kind.symbol t.lexeme.toList = t.symbol

end Token

namespace Lexical

/-- What is free of blanks ends in front of the first one. -/
theorem divide_of_not_mem {text : List Char} (absent : ' ' ∉ text) (rest : List Char) :
    ((text ++ ' ' :: rest).takeWhile (· != ' '), (text ++ ' ' :: rest).dropWhile (· != ' ')) =
      (text, ' ' :: rest) := by
  have run : Run (· != ' ') text (' ' :: rest) :=
    run_of_not_mem absent fun _ first => (Option.some.inj first).symm
  rw [run.takeWhile_append, run.dropWhile_append]

/-- There is no blank among characters of a class that contains none. -/
theorem blank_not_mem_of_forall {accepts : Char → Bool} {text : List Char}
    (inside : ∀ c ∈ text, accepts c = true) (apart : accepts ' ' = false) : ' ' ∉ text := by
  intro member
  rw [inside ' ' member] at apart
  contradiction

/-- There is no blank in a word. -/
theorem blank_not_mem_word {c : Char} {tail : List Char} (letter : Text.isAlphabetic c = true)
    (inside : ∀ d ∈ tail, continuesWord d = true) : ' ' ∉ c :: tail := by
  have first : ' ' ≠ c := by
    rintro rfl
    contradiction
  have behind : ' ' ∉ tail := blank_not_mem_of_forall inside rfl
  simp [first, behind]

/-- There is no blank in a lexeme of a token, unless it is a string. -/
theorem Lexeme.blank_not_mem {symbol : Symbol} {text rest : List Char}
    (lexeme : Lexeme (.token symbol) text rest) (other : symbol.kind ≠ .string) :
    ' ' ∉ text := by
  cases lexeme with
  | @mark m => cases m <;> decide
  | string => exact absurd rfl other
  | whole _ run => exact blank_not_mem_of_forall run.inside rfl
  | fraction _ digits _ run spelled =>
    have front : ' ' ∉ _ := blank_not_mem_of_forall digits rfl
    have back : ' ' ∉ _ := blank_not_mem_of_forall run.inside rfl
    simp [← spelled, front, back]
  | keyword _ letter run | identifier _ letter run => exact blank_not_mem_word letter run.inside

/-- The token of a lexeme is recognizable. -/
theorem Lexeme.recognizable {t : Token} {rest : List Char}
    (lexeme : Lexeme (.token t.symbol) t.lexeme.toList rest) : t.Recognizable := by
  rcases t with ⟨symbol, word, line⟩
  generalize spelled : word.toList = text at lexeme
  constructor
  case divide_append =>
    intro rest
    have plain (other : symbol.kind ≠ .string) : ' ' ∉ text := lexeme.blank_not_mem other
    simp only [Token.kind, spelled]
    cases lexeme with
    | @string value _ absent =>
      have run : Run (· != '"') value ('"' :: ' ' :: rest) :=
        run_of_not_mem absent fun _ first => (Option.some.inj first).symm
      have behind : ('"' :: value ++ ['"'] ++ ' ' :: rest).tail = value ++ '"' :: ' ' :: rest := by
        simp
      simp only [Symbol.kind, Kind.divide, behind, run.takeWhile_append, run.dropWhile_append,
        List.tail_cons]
    | _ => exact divide_of_not_mem (plain (by simp [Symbol.kind])) rest
  case symbol_eq =>
    simp only [Token.kind, spelled]
    cases lexeme with
    | @string value =>
      have inner : ('"' :: value ++ ['"']).tail.dropLast = value := by simp
      simp only [Symbol.kind, Kind.symbol, inner]
    | _ => rfl

end Lexical

/-- The end of the input is recognizable. -/
theorem Token.recognizable_endOfInput (line : Nat) : (endOfInput line).Recognizable where
  divide_append _ := rfl
  symbol_eq := rfl

/-- The tokens of a scan are recognizable. -/
theorem recognizable_of_mem_scan {source : String} {t : Token}
    (member : t ∈ (scan source).tokens) : t.Recognizable := by
  rcases lexeme_or_end_of_mem_scan member with ⟨rest, lexeme⟩ | ⟨line, rfl⟩
  · exact lexeme.recognizable
  · exact Token.recognizable_endOfInput line

/-! ## Entries -/

namespace Token

/-- Reads the first entry of a dump: a token, without a line, and what is behind its entry. -/
def readEntry? (text : List Char) : Option (Token × List Char) :=
  (Kind.ofName? (String.ofList (text.takeWhile (· != ' ')))).map fun kind =>
    let (lexeme, behind) := kind.divide (text.dropWhile (· != ' ')).tail
    let t : Token := ⟨kind.symbol lexeme, String.ofList lexeme, 0⟩
    (t, behind.drop (t.valueText.toList.length + 1))

/-- The entry of a token in front of a text. -/
theorem toList_dump_append (t : Token) (rest : List Char) :
    t.dump.toList ++ rest =
      t.kind.name.toList ++
        ' ' :: (t.lexeme.toList ++ ' ' :: (t.valueText.toList ++ rest)) := by
  simp [dump]

/-- A recognizable token is read back from its entry, whatever is behind the entry. -/
theorem Recognizable.readEntry?_append {t : Token} (recognizable : t.Recognizable)
    (rest : List Char) : readEntry? (t.dump.toList ++ rest) = some (t.withoutLine, rest) := by
  have named := Lexical.divide_of_not_mem t.kind.blank_not_mem_name
    (t.lexeme.toList ++ ' ' :: (t.valueText.toList ++ rest))
  have read : (⟨t.kind.symbol t.lexeme.toList, String.ofList t.lexeme.toList, 0⟩ : Token) =
      t.withoutLine := by
    rw [recognizable.symbol_eq, String.ofList_toList]
    rfl
  have value : t.withoutLine.valueText = t.valueText := rfl
  rw [toList_dump_append, readEntry?, (Prod.mk.inj named).1, (Prod.mk.inj named).2,
    String.ofList_toList, Kind.ofName?_name]
  simp only [Option.map_some, List.tail_cons, recognizable.divide_append, read, value,
    List.drop_succ_cons, List.drop_left]

/-! ## Dumps -/

/-- The entries of tokens, each behind a line break. -/
def entries (ts : List Token) : List Char :=
  ts.flatMap fun t => '\n' :: t.dump.toList

/-- A dump, behind a line break, is the row of its entries. -/
theorem cons_dumpAll {ts : List Token} (nonempty : ts ≠ []) :
    '\n' :: (dumpAll ts).toList = entries ts := by
  rw [dumpAll, String.toList_intercalate, List.map_map]
  induction ts with
  | nil => contradiction
  | cons t later ih =>
    cases later with
    | nil => simp [entries]
    | cons u later =>
      have behind := ih (List.cons_ne_nil u later)
      rw [List.map_cons, List.map_cons, List.intercalate_cons_cons, ← List.map_cons, entries,
        List.flatMap_cons, ← entries, ← behind]
      simp

/-- Recognizable tokens with the same entries are the same up to their lines. -/
theorem map_withoutLine_eq_of_entries {ts us : List Token} (known : ∀ t ∈ ts, t.Recognizable)
    (known' : ∀ u ∈ us, u.Recognizable) (same : entries ts = entries us) :
    ts.map withoutLine = us.map withoutLine := by
  induction ts generalizing us with
  | nil =>
    cases us with
    | nil => rfl
    | cons u us => contradiction
  | cons t ts ih =>
    cases us with
    | nil => contradiction
    | cons u us =>
      rcases List.forall_mem_cons.1 known with ⟨first, later⟩
      rcases List.forall_mem_cons.1 known' with ⟨first', later'⟩
      have texts : t.dump.toList ++ entries ts = u.dump.toList ++ entries us :=
        List.tail_eq_of_cons_eq same
      -- Both sides are read in the same way, which tells the tokens and where they end.
      have read := congrArg readEntry? texts
      rw [first.readEntry?_append, first'.readEntry?_append] at read
      rcases Prod.mk.inj (Option.some.inj read) with ⟨token, behind⟩
      rw [List.map_cons, List.map_cons, token, ih later later' behind]

/-- A dump does not show lines. -/
theorem dumpAll_map_withoutLine (ts : List Token) : dumpAll (ts.map withoutLine) = dumpAll ts := by
  rw [dumpAll, List.map_map]
  rfl

end Token

/-- A dump is unambiguous.  Two sources have the same dump exactly if their tokens are the same
up to their lines: as many, of the same kinds, with the same lexemes and the same values. -/
theorem dumpAll_eq_iff (a b : String) :
    Token.dumpAll (scan a).tokens = Token.dumpAll (scan b).tokens ↔
      (scan a).tokens.map Token.withoutLine = (scan b).tokens.map Token.withoutLine := by
  have nonempty (source : String) : (scan source).tokens ≠ [] := by simp [tokens_scan]
  constructor
  · intro same
    apply Token.map_withoutLine_eq_of_entries (fun t => recognizable_of_mem_scan)
      (fun t => recognizable_of_mem_scan)
    rw [← Token.cons_dumpAll (nonempty a), ← Token.cons_dumpAll (nonempty b), same]
  · intro same
    rw [← Token.dumpAll_map_withoutLine, same, Token.dumpAll_map_withoutLine]

end LoxExpr
