import LoxExpr.Text.Form
import LoxExpr.Text.Quoted

/-!
# Cursors

A cursor walks over a text one character at a time and counts the lines that it
passes.  Offsets are counted in bytes of the UTF-8 encoding, so that the stretch
between two cursors over the same text can be cut out by their offsets.

Main results:

- Theorems `dropBytes?_append` and `takeBytes?_append`: a text is divided by its
  bytes where it is divided by its characters.
- Theorem `Cursor.advanceBy_succ`: passing several characters is passing one
  after the other.
- Theorem `Cursor.rest_advanceWhile`: a cursor stops in front of the first
  character that does not satisfy the predicate.
-/

namespace LoxExpr.Text

/-! ## Bytes of a text -/

/-- The number of bytes in the UTF-8 encoding of a text. -/
def byteSize : List Char → Nat
  | [] => 0
  | c :: cs => c.utf8Size + byteSize cs

/-- What remains behind the first `n` bytes of a text, unless they end inside of a
character or the text is shorter. -/
def dropBytes? : Nat → List Char → Option (List Char)
  | 0, cs => some cs
  | _ + 1, [] => none
  | n + 1, c :: cs =>
    if c.utf8Size ≤ n + 1 then dropBytes? (n + 1 - c.utf8Size) cs else none

/-- The first `n` bytes of a text, unless they end inside of a character or the
text is shorter. -/
def takeBytes? : Nat → List Char → Option (List Char)
  | 0, _ => some []
  | _ + 1, [] => none
  | n + 1, c :: cs =>
    if c.utf8Size ≤ n + 1 then (takeBytes? (n + 1 - c.utf8Size) cs).map (c :: ·) else none

/-- The bytes of two texts are those of the one and those of the other. -/
@[simp] theorem byteSize_append (xs ys : List Char) :
    byteSize (xs ++ ys) = byteSize xs + byteSize ys := by
  induction xs with
  | nil => exact (Nat.zero_add _).symm
  | cons c xs ih => simp only [List.cons_append, byteSize, ih, Nat.add_assoc]

/-- Behind the bytes of a text comes what follows it. -/
theorem dropBytes?_append (xs ys : List Char) :
    dropBytes? (byteSize xs) (xs ++ ys) = some ys := by
  induction xs with
  | nil => cases ys <;> rfl
  | cons c xs ih =>
    have size : byteSize (c :: xs) = c.utf8Size + byteSize xs := rfl
    have positive := c.utf8Size_pos
    obtain ⟨n, total⟩ : ∃ n, byteSize (c :: xs) = n + 1 :=
      ⟨byteSize (c :: xs) - 1, by omega⟩
    rw [total, List.cons_append, dropBytes?, if_pos (by omega),
      show n + 1 - c.utf8Size = byteSize xs by omega]
    exact ih

/-- The bytes of a text, taken from the front, are that text. -/
theorem takeBytes?_append (xs ys : List Char) :
    takeBytes? (byteSize xs) (xs ++ ys) = some xs := by
  induction xs with
  | nil => cases ys <;> rfl
  | cons c xs ih =>
    have size : byteSize (c :: xs) = c.utf8Size + byteSize xs := rfl
    have positive := c.utf8Size_pos
    obtain ⟨n, total⟩ : ∃ n, byteSize (c :: xs) = n + 1 :=
      ⟨byteSize (c :: xs) - 1, by omega⟩
    rw [total, List.cons_append, takeBytes?, if_pos (by omega),
      show n + 1 - c.utf8Size = byteSize xs by omega, ih]
    rfl

/-! ## Walking -/

/-- A place in a text, with the line that it is on. -/
structure Cursor where
  source : List Char
  rest : List Char
  line : Nat
deriving DecidableEq

namespace Cursor

/-- A cursor at the start of a text. -/
def start (text : String) : Cursor :=
  ⟨text.toList, text.toList, 1⟩

/-- The number of bytes in front of the cursor. -/
def offset (cursor : Cursor) : Nat :=
  byteSize cursor.source - byteSize cursor.rest

/-- Whether nothing remains. -/
def isAtEnd (cursor : Cursor) : Bool :=
  cursor.rest.isEmpty

/-- The next character. -/
def peek? (cursor : Cursor) : Option Char :=
  cursor.rest.head?

/-- The character after the next one. -/
def peekNext? (cursor : Cursor) : Option Char :=
  cursor.rest[1]?

/-- Passes one character, and the line if it is a line break. -/
def advance (cursor : Cursor) : Cursor :=
  match cursor.rest with
  | [] => cursor
  | c :: rest =>
    { cursor with rest := rest, line := if c = '\n' then cursor.line + 1 else cursor.line }

/-- Takes the next character. -/
def next? (cursor : Cursor) : Option Char × Cursor :=
  (cursor.peek?, cursor.advance)

/-- Passes a number of characters, or all that remain if they are fewer. -/
def advanceBy (cursor : Cursor) (n : Nat) : Cursor :=
  { cursor with
    rest := cursor.rest.drop n
    line := cursor.line + (cursor.rest.take n).count '\n' }

/-- Passes a number of characters and takes the one behind them. -/
def nth? (cursor : Cursor) (n : Nat) : Option Char × Cursor :=
  (cursor.advanceBy n).next?

/-- Takes all that remains. -/
def takeRest (cursor : Cursor) : List Char × Cursor :=
  (cursor.rest, cursor.advanceBy cursor.rest.length)

/-- Passes the next character if it is the expected one. -/
def advanceIf (cursor : Cursor) (expected : Char) : Bool × Cursor :=
  if cursor.peek? = some expected then (true, cursor.advance) else (false, cursor)

/-- Passes characters up to the first one that does not satisfy a predicate. -/
def advanceWhile (cursor : Cursor) (accepts : Char → Bool) : Cursor :=
  cursor.advanceBy (cursor.rest.takeWhile accepts).length

/-- The text between two cursors over the same text, the first in front of the
second. -/
def sliceUntil? (first last : Cursor) : Option (List Char) :=
  if first.source = last.source ∧ first.offset ≤ last.offset then
    (dropBytes? first.offset first.source).bind (takeBytes? (last.offset - first.offset))
  else none

/-- Whether two cursors are at the same place of the same text. -/
def samePlace (a b : Cursor) : Bool :=
  a.source == b.source && a.rest == b.rest

/-- Passing no character changes nothing. -/
@[simp] theorem advanceBy_zero (cursor : Cursor) : cursor.advanceBy 0 = cursor := by
  simp [advanceBy]

/-- Passing several characters is passing one and then the others. -/
theorem advanceBy_succ (cursor : Cursor) (n : Nat) :
    cursor.advanceBy (n + 1) = cursor.advance.advanceBy n := by
  unfold advance
  split
  next remaining => simp [advanceBy, remaining]
  next c rest remaining =>
    by_cases h : c = '\n'
    · simp [advanceBy, remaining, h]
      omega
    · simp [advanceBy, remaining, h]

/-- A cursor that passed all that satisfies a predicate stops in front of the
first character that does not. -/
theorem rest_advanceWhile (cursor : Cursor) (accepts : Char → Bool) :
    (cursor.advanceWhile accepts).rest = cursor.rest.dropWhile accepts := by
  unfold advanceWhile advanceBy
  have whole : cursor.rest.takeWhile accepts ++ cursor.rest.dropWhile accepts = cursor.rest :=
    List.takeWhile_append_dropWhile
  calc cursor.rest.drop (cursor.rest.takeWhile accepts).length
      = (cursor.rest.takeWhile accepts ++ cursor.rest.dropWhile accepts).drop
          (cursor.rest.takeWhile accepts).length := by rw [whole]
    _ = cursor.rest.dropWhile accepts := List.drop_left

/-! ## Structural form -/

/-- The form of a cursor without the text that remains. -/
def form (cursor : Cursor) : Form :=
  .record "Cursor"
    [.labelled "line" (.ofLine cursor.line), .labelled "offset" (.ofNat cursor.offset)]

/-- The form of a cursor with the text that remains. -/
def fullForm (cursor : Cursor) : Form :=
  .record "Cursor"
    [.labelled "line" (.ofLine cursor.line), .labelled "offset" (.ofNat cursor.offset),
      .labelled "rest" (.atom (quoted (String.ofList cursor.rest)))]

end Cursor

end LoxExpr.Text
