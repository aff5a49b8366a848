import LoxExpr.Text.Visible

/-!
# Quoted text

The quoted form of a text or of one character, as structural dumps show them.
The quote itself and the backslash are escaped, the usual controls have short
names, and any other character without a visible form is written by its code
point in lower-case hexadecimal.

Main results:

- Theorem `escape_of_isVisible`: a visible character other than the backslash
  and the quote in use is written as it is.
-/

namespace LoxExpr.Text

/-- The escape of a character by its code point, such as `\u{7f}`. -/
def escapeCodePoint (c : Char) : List Char :=
  ['\\', 'u', '\x7b'] ++ Nat.toDigits 16 c.toNat ++ ['\x7d']

/-- A character as it stands between two quotes. -/
def escape (quote c : Char) : List Char :=
  if c = '\x00' then ['\\', '0']
  else if c = '\t' then ['\\', 't']
  else if c = '\r' then ['\\', 'r']
  else if c = '\n' then ['\\', 'n']
  else if c = '\\' ∨ c = quote then ['\\', c]
  else if isVisible c then [c]
  else escapeCodePoint c

/-- A text between double quotes. -/
def quoted (text : String) : String :=
  String.ofList ('"' :: (text.toList.flatMap (escape '"') ++ ['"']))

/-- A character between single quotes. -/
def quotedChar (c : Char) : String :=
  String.ofList ('\'' :: (escape '\'' c ++ ['\'']))

/-- A visible character is shown as it is, unless it would be read as an escape
or as the end of the text. -/
theorem escape_of_isVisible {quote c : Char} (visible : isVisible c = true)
    (backslash : c ≠ '\\') (distinct : c ≠ quote) : escape quote c = [c] := by
  have control : ∀ d : Char, isVisible d = false → c ≠ d := by
    intro d hidden same
    rw [← same, visible] at hidden
    exact Bool.noConfusion hidden
  simp [escape, visible, backslash, distinct, control '\x00' (by decide),
    control '\t' (by decide), control '\r' (by decide), control '\n' (by decide)]

end LoxExpr.Text
