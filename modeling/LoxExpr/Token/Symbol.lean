import LoxExpr.Number.Binary64

/-!
# Symbols of the language

What a token stands for, apart from where it was found: a punctuation mark or
operator, a reserved word, an identifier, a string or number with its value, or
the end of the input.  A kind is a symbol without the value it carries, and the
grammar looks at kinds and values only.

Main results:

- Theorem `Keyword.ofSpelling?_eq_some_iff`: a word is reserved exactly when it
  is the spelling of a keyword.
- Theorem `Kind.ofName?_name`: every kind is found under its name.
-/

namespace LoxExpr

/-! ## Marks -/

/-- The punctuation marks and operators. -/
inductive Mark
  | leftParen
  | rightParen
  | leftBrace
  | rightBrace
  | comma
  | dot
  | minus
  | plus
  | semicolon
  | slash
  | star
  | questionMark
  | colon
  | bang
  | bangEqual
  | equal
  | equalEqual
  | greater
  | greaterEqual
  | less
  | lessEqual
deriving DecidableEq

namespace Mark

/-- Every mark, in the order of declaration. -/
def all : List Mark :=
  [.leftParen, .rightParen, .leftBrace, .rightBrace, .comma, .dot,
    .minus, .plus, .semicolon, .slash, .star, .questionMark,
    .colon, .bang, .bangEqual, .equal, .equalEqual, .greater,
    .greaterEqual, .less, .lessEqual]

/-- The characters of a mark. -/
def spelling : Mark → String
  | .leftParen => "("
  | .rightParen => ")"
  | .leftBrace => "\x7b"
  | .rightBrace => "\x7d"
  | .comma => ","
  | .dot => "."
  | .minus => "-"
  | .plus => "+"
  | .semicolon => ";"
  | .slash => "/"
  | .star => "*"
  | .questionMark => "?"
  | .colon => ":"
  | .bang => "!"
  | .bangEqual => "!="
  | .equal => "="
  | .equalEqual => "=="
  | .greater => ">"
  | .greaterEqual => ">="
  | .less => "<"
  | .lessEqual => "<="

/-- The name of a mark in token dumps. -/
def name : Mark → String
  | .leftParen => "LeftParen"
  | .rightParen => "RightParen"
  | .leftBrace => "LeftBrace"
  | .rightBrace => "RightBrace"
  | .comma => "Comma"
  | .dot => "Dot"
  | .minus => "Minus"
  | .plus => "Plus"
  | .semicolon => "Semicolon"
  | .slash => "Slash"
  | .star => "Star"
  | .questionMark => "QuestionMark"
  | .colon => "Colon"
  | .bang => "Bang"
  | .bangEqual => "BangEqual"
  | .equal => "Equal"
  | .equalEqual => "EqualEqual"
  | .greater => "Greater"
  | .greaterEqual => "GreaterEqual"
  | .less => "Less"
  | .lessEqual => "LessEqual"

/-- The mark that a single character spells. -/
def ofChar? (c : Char) : Option Mark :=
  all.find? fun mark => mark.spelling.toList == [c]

/-- The mark that a mark becomes when an equals sign follows at once. -/
def withEqual? : Mark → Option Mark
  | .bang => some .bangEqual
  | .equal => some .equalEqual
  | .greater => some .greaterEqual
  | .less => some .lessEqual
  | _ => none

/-- Every mark is listed. -/
theorem mem_all (mark : Mark) : mark ∈ all := by
  cases mark <;> decide

/-- A longer mark is spelled as the shorter one and an equals sign. -/
theorem spelling_withEqual? {mark long : Mark} (h : mark.withEqual? = some long) :
    long.spelling = mark.spelling ++ "=" := by
  cases mark <;> simp_all [withEqual?] <;> subst h <;> rfl

end Mark

/-! ## Keywords -/

/-- The reserved words. -/
inductive Keyword
  | kwAnd
  | kwClass
  | kwElse
  | kwFalse
  | kwFun
  | kwFor
  | kwIf
  | kwNil
  | kwOr
  | kwPrint
  | kwReturn
  | kwSuper
  | kwThis
  | kwTrue
  | kwVar
  | kwWhile
deriving DecidableEq

namespace Keyword

/-- Every keyword, in the order of declaration. -/
def all : List Keyword :=
  [.kwAnd, .kwClass, .kwElse, .kwFalse, .kwFun, .kwFor,
    .kwIf, .kwNil, .kwOr, .kwPrint, .kwReturn, .kwSuper,
    .kwThis, .kwTrue, .kwVar, .kwWhile]

/-- The letters of a keyword. -/
def spelling : Keyword → String
  | .kwAnd => "and"
  | .kwClass => "class"
  | .kwElse => "else"
  | .kwFalse => "false"
  | .kwFun => "fun"
  | .kwFor => "for"
  | .kwIf => "if"
  | .kwNil => "nil"
  | .kwOr => "or"
  | .kwPrint => "print"
  | .kwReturn => "return"
  | .kwSuper => "super"
  | .kwThis => "this"
  | .kwTrue => "true"
  | .kwVar => "var"
  | .kwWhile => "while"

/-- The name of a keyword in token dumps. -/
def name : Keyword → String
  | .kwAnd => "And"
  | .kwClass => "Class"
  | .kwElse => "Else"
  | .kwFalse => "False"
  | .kwFun => "Fun"
  | .kwFor => "For"
  | .kwIf => "If"
  | .kwNil => "Nil"
  | .kwOr => "Or"
  | .kwPrint => "Print"
  | .kwReturn => "Return"
  | .kwSuper => "Super"
  | .kwThis => "This"
  | .kwTrue => "True"
  | .kwVar => "Var"
  | .kwWhile => "While"

/-- The keyword that a complete word spells, in exactly these letters. -/
def ofSpelling? (word : String) : Option Keyword :=
  all.find? fun keyword => keyword.spelling == word

/-- Whether a keyword begins a statement, so that reading can resume there. -/
def startsStatement : Keyword → Bool
  | .kwClass | .kwFun | .kwVar | .kwFor | .kwIf | .kwWhile | .kwPrint | .kwReturn => true
  | _ => false

/-- Every keyword is listed. -/
theorem mem_all (keyword : Keyword) : keyword ∈ all := by
  cases keyword <;> decide

/-- The spelling of a keyword is found. -/
theorem ofSpelling?_spelling (keyword : Keyword) :
    ofSpelling? keyword.spelling = some keyword := by
  cases keyword <;> decide +kernel

/-- A word is reserved exactly when it is the spelling of a keyword. -/
theorem ofSpelling?_eq_some_iff {word : String} {keyword : Keyword} :
    ofSpelling? word = some keyword ↔ keyword.spelling = word := by
  constructor
  · intro found
    rw [ofSpelling?] at found
    simpa using List.find?_some found
  · rintro rfl
    exact ofSpelling?_spelling keyword

end Keyword

/-! ## Symbols and kinds -/

/-- What a token stands for. -/
inductive Symbol
  | mark (m : Mark)
  | keyword (k : Keyword)
  | identifier
  | string (value : String)
  | number (value : Binary64)
  | endOfInput
deriving DecidableEq

/-- A symbol without the value it carries. -/
inductive Kind
  | mark (m : Mark)
  | keyword (k : Keyword)
  | identifier
  | string
  | number
  | endOfInput
deriving DecidableEq

namespace Kind

/-- Every kind: marks, kinds with a value, keywords, the end. -/
def all : List Kind :=
  Mark.all.map .mark ++ [.identifier, .string, .number] ++ Keyword.all.map .keyword ++
    [.endOfInput]

/-- The name of a kind in token dumps. -/
def name : Kind → String
  | .mark m => m.name
  | .keyword k => k.name
  | .identifier => "Identifier"
  | .string => "Str"
  | .number => "Number"
  | .endOfInput => "Eof"

/-- The kind with a given name. -/
def ofName? (name : String) : Option Kind :=
  all.find? fun kind => kind.name == name

/-- Every kind is listed. -/
theorem mem_all (kind : Kind) : kind ∈ all := by
  cases kind <;> simp [all, Mark.mem_all, Keyword.mem_all]

/-- Every kind is found under its name. -/
theorem ofName?_name (kind : Kind) : ofName? kind.name = some kind := by
  cases kind with
  | mark m => cases m <;> decide +kernel
  | keyword k => cases k <;> decide +kernel
  | _ => decide +kernel

end Kind

namespace Symbol

/-- The kind of a symbol. -/
def kind : Symbol → Kind
  | .mark m => .mark m
  | .keyword k => .keyword k
  | .identifier => .identifier
  | .string _ => .string
  | .number _ => .number
  | .endOfInput => .endOfInput

/-- Equality of symbols in which numbers are compared by value. -/
def agrees : Symbol → Symbol → Bool
  | .number x, .number y => x.agrees y
  | a, b => a == b

end Symbol

end LoxExpr
