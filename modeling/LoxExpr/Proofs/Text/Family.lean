import LoxExpr.Text.Cursor
import Mathlib.Data.List.Induction

/-!
# Families of cursors

Cursors are made at the start of a text or as copies of one another, and each of
them is then moved on its own.  Whatever happens to it, a cursor divides its text
into what it passed and what remains, and its offset and its line are read off
what it passed.  So two cursors over one text pass a shorter and a longer stretch
from its start, and comparing or cutting them by their offsets is comparing or
cutting these stretches.

Main results:

- Theorem `Cursor.advanceWhile_eq`: passing characters by a predicate is a loop that
  looks at the next character and passes it.
- Theorem `Cursor.Operation.passes`: whatever is done with a cursor, it passes a
  stretch of what remains, and the operation says which one.
- Theorem `Cursor.Placed.sliceUntil?_eq_some_iff`: what is cut out between two
  cursors is what the second one passed behind the first one.
- Theorem `Cursor.coherent_run`: all cursors of a family divide their texts, are
  compared by text and offset, and cut out whole characters that join up.
-/

namespace LoxExpr.Text

/-- The size of a text is the number of its bytes. -/
theorem byteSize_eq_size (cs : List Char) : byteSize cs = cs.utf8Encode.size := by
  induction cs with
  | nil => rfl
  | cons c cs ih =>
    rw [byteSize, ih, List.utf8Encode_cons, ByteArray.size_append, List.utf8Encode_singleton,
      List.size_toByteArray, String.length_utf8EncodeChar]

/-- Only the empty text has no bytes. -/
theorem eq_nil_of_byteSize_eq_zero {cs : List Char} (empty : byteSize cs = 0) : cs = [] := by
  cases cs with
  | nil => rfl
  | cons c cs =>
    have positive := c.utf8Size_pos
    rw [byteSize] at empty
    omega

namespace Cursor

/-! ## Passing a stretch -/

/-- The second cursor is the first one after it passed a stretch of its text. -/
structure Passes (first : Cursor) (stretch : List Char) (last : Cursor) : Prop where
  source : last.source = first.source
  rest : first.rest = stretch ++ last.rest
  line : last.line = first.line + stretch.count '\n'

/-- A cursor that stays passes nothing. -/
theorem Passes.refl (cursor : Cursor) : Passes cursor [] cursor :=
  ⟨rfl, rfl, rfl⟩

/-- A cursor that passes two stretches one after the other passes both. -/
theorem Passes.trans {a b c : Cursor} {xs ys : List Char} (first : Passes a xs b)
    (second : Passes b ys c) : Passes a (xs ++ ys) c where
  source := second.source.trans first.source
  rest := by rw [first.rest, second.rest, List.append_assoc]
  line := by rw [second.line, first.line, List.count_append, Nat.add_assoc]

/-- Passing a number of characters passes the first of those that remain. -/
theorem passes_advanceBy (cursor : Cursor) (n : Nat) :
    Passes cursor (cursor.rest.take n) (cursor.advanceBy n) where
  source := rfl
  rest := (List.take_append_drop n cursor.rest).symm
  line := rfl

/-- Passing one character passes the first one that remains, if there is one. -/
theorem passes_advance (cursor : Cursor) :
    Passes cursor (cursor.rest.take 1) cursor.advance := by
  have once := passes_advanceBy cursor 1
  rwa [advanceBy_succ, advanceBy_zero] at once

/-- Taking a later character passes it and those in front of it. -/
theorem passes_nth? (cursor : Cursor) (n : Nat) :
    Passes cursor (cursor.rest.take (n + 1)) (cursor.nth? n).2 := by
  have both := (passes_advanceBy cursor n).trans (passes_advance _)
  rwa [advanceBy, ← List.take_add] at both

/-- Taking all that remains passes it. -/
theorem passes_takeRest (cursor : Cursor) :
    Passes cursor cursor.rest cursor.takeRest.2 := by
  have all := passes_advanceBy cursor cursor.rest.length
  rwa [List.take_length] at all

/-- The expected character is passed if it is the next one, and no other one is. -/
theorem passes_advanceIf (cursor : Cursor) (expected : Char) :
    Passes cursor (if cursor.rest.head? = some expected then [expected] else [])
      (cursor.advanceIf expected).2 := by
  unfold advanceIf peek?
  split
  next present =>
    have once := passes_advance cursor
    rwa [List.take_one, present] at once
  next => exact .refl cursor

/-- Passing characters that satisfy a predicate passes those at the front. -/
theorem passes_advanceWhile (cursor : Cursor) (accepts : Char → Bool) :
    Passes cursor (cursor.rest.takeWhile accepts) (cursor.advanceWhile accepts) := by
  have front := passes_advanceBy cursor (cursor.rest.takeWhile accepts).length
  rwa [← List.prefix_iff_eq_take.1 (List.takeWhile_prefix accepts)] at front

/-- Passing characters that satisfy a predicate is looking at the next character and
passing it, again and again. -/
theorem advanceWhile_eq (cursor : Cursor) (accepts : Char → Bool) :
    cursor.advanceWhile accepts =
      if cursor.peek?.any accepts then cursor.advance.advanceWhile accepts else cursor := by
  obtain ⟨source, rest, line⟩ := cursor
  cases rest with
  | nil => rfl
  | cons c rest =>
    by_cases accepted : accepts c = true
    · simp only [advanceWhile, peek?, List.head?_cons, Option.any_some, accepted, if_true,
        List.takeWhile_cons, List.length_cons, advanceBy_succ]
      rfl
    · simp [advanceWhile, peek?, accepted]

/-- What can be done with a cursor. -/
inductive Operation where
  | next
  | nth (n : Nat)
  | collect
  | peek
  | peekNext
  | advanceIf (expected : Char)
  | advanceWhile (accepts : Char → Bool)

/-- The cursor after an operation. -/
def Operation.perform : Operation → Cursor → Cursor
  | .next, cursor => cursor.next?.2
  | .nth n, cursor => (cursor.nth? n).2
  | .collect, cursor => cursor.takeRest.2
  | .peek, cursor => cursor
  | .peekNext, cursor => cursor
  | .advanceIf expected, cursor => (cursor.advanceIf expected).2
  | .advanceWhile accepts, cursor => cursor.advanceWhile accepts

/-- The stretch that an operation passes of what remains. -/
def Operation.stretch : Operation → List Char → List Char
  | .next, rest => rest.take 1
  | .nth n, rest => rest.take (n + 1)
  | .collect, rest => rest
  | .peek, _ => []
  | .peekNext, _ => []
  | .advanceIf expected, rest => if rest.head? = some expected then [expected] else []
  | .advanceWhile accepts, rest => rest.takeWhile accepts

/-- Every operation passes its stretch. -/
theorem Operation.passes (operation : Operation) (cursor : Cursor) :
    Passes cursor (operation.stretch cursor.rest) (operation.perform cursor) := by
  cases operation with
  | next => exact passes_advance cursor
  | nth n => exact passes_nth? cursor n
  | collect => exact passes_takeRest cursor
  | peek => exact .refl cursor
  | peekNext => exact .refl cursor
  | advanceIf expected => exact passes_advanceIf cursor expected
  | advanceWhile accepts => exact passes_advanceWhile cursor accepts

/-! ## One cursor in its text -/

/-- The part of the text in front of the cursor. -/
def consumed (cursor : Cursor) : List Char :=
  cursor.source.take (cursor.source.length - cursor.rest.length)

/-- The cursor divides its text, and its line is that of the place of division. -/
structure Placed (cursor : Cursor) : Prop where
  divided : cursor.consumed ++ cursor.rest = cursor.source
  line : cursor.line = 1 + cursor.consumed.count '\n'

/-- What stands in front of the rest of the text is in front of the cursor. -/
theorem consumed_eq {cursor : Cursor} {stretch : List Char}
    (divided : stretch ++ cursor.rest = cursor.source) : cursor.consumed = stretch := by
  simp [consumed, ← divided]

/-- A cursor at the start of a text has all of it before it. -/
theorem placed_start (text : String) : (start text).Placed := by
  have nothing : (start text).consumed = [] := consumed_eq rfl
  exact ⟨by rw [nothing]; rfl, by rw [nothing]; rfl⟩

/-- A stretch that is passed is put behind what was passed before. -/
theorem Placed.consumed_passes {first last : Cursor} {stretch : List Char}
    (placed : first.Placed) (passes : Passes first stretch last) :
    last.consumed = first.consumed ++ stretch :=
  consumed_eq (by rw [List.append_assoc, ← passes.rest, placed.divided, passes.source])

/-- A cursor that passes a stretch still divides its text. -/
theorem Placed.passes {first last : Cursor} {stretch : List Char} (placed : first.Placed)
    (passes : Passes first stretch last) : last.Placed where
  divided := by
    rw [placed.consumed_passes passes, List.append_assoc, ← passes.rest, placed.divided,
      passes.source]
  line := by
    rw [placed.consumed_passes passes, passes.line, placed.line, List.count_append,
      Nat.add_assoc]

/-- The offset is the size of what was passed. -/
theorem Placed.offset_eq {cursor : Cursor} (placed : cursor.Placed) :
    cursor.offset = byteSize cursor.consumed := by
  rw [offset, ← placed.divided, byteSize_append, Nat.add_sub_cancel]

/-! ## Two cursors over one text -/

variable {i j k : Cursor}

/-- Two cursors over one text divide the same text. -/
theorem Placed.divided_alike (first : i.Placed) (last : j.Placed)
    (same : i.source = j.source) : i.consumed ++ i.rest = j.consumed ++ j.rest := by
  rw [first.divided, last.divided, same]

/-- Of two cursors over one text, the one with the larger offset passed what the
other one did, and more. -/
theorem Placed.exists_between (first : i.Placed) (last : j.Placed)
    (same : i.source = j.source) (ordered : i.offset ≤ j.offset) :
    ∃ between, i.consumed ++ between = j.consumed := by
  have whole := first.divided_alike last same
  rcases List.append_eq_append_iff.1 whole with ⟨between, longer, -⟩ | ⟨excess, longer, -⟩
  · exact ⟨between, longer.symm⟩
  · rw [first.offset_eq, last.offset_eq, longer, byteSize_append] at ordered
    have hnil : excess = [] := eq_nil_of_byteSize_eq_zero (by omega)
    exact ⟨[], by simp [longer, hnil]⟩

/-- Two cursors are at the same place exactly if they passed the same of one text. -/
theorem Placed.samePlace_iff (first : i.Placed) (last : j.Placed) :
    i.samePlace j ↔ i.source = j.source ∧ i.consumed = j.consumed := by
  rw [samePlace, Bool.and_eq_true, beq_iff_eq, beq_iff_eq]
  refine and_congr_right fun same => ?_
  have whole := first.divided_alike last same
  constructor
  · intro rest
    exact List.append_cancel_right (rest ▸ whole)
  · intro passed
    exact List.append_cancel_left (passed ▸ whole)

/-- Over one text, the same offset means that the same was passed. -/
theorem Placed.consumed_eq_iff (first : i.Placed) (last : j.Placed)
    (same : i.source = j.source) : i.consumed = j.consumed ↔ i.offset = j.offset := by
  constructor
  · intro passed
    rw [first.offset_eq, last.offset_eq, passed]
  · intro level
    obtain ⟨between, longer⟩ := first.exists_between last same (Nat.le_of_eq level)
    rw [first.offset_eq, last.offset_eq, ← longer, byteSize_append] at level
    have hnil : between = [] := eq_nil_of_byteSize_eq_zero (by omega)
    rw [← longer, hnil, List.append_nil]

/-- Between two cursors, the stretch is cut out that the second one passed behind
the first one. -/
theorem Placed.sliceUntil?_of_append (first : i.Placed) (last : j.Placed)
    (same : i.source = j.source) {text : List Char}
    (between : i.consumed ++ text = j.consumed) : i.sliceUntil? j = some text := by
  have offset : j.offset = i.offset + byteSize text := by
    rw [first.offset_eq, last.offset_eq, ← between, byteSize_append]
  have source : i.source = i.consumed ++ (text ++ j.rest) := by
    rw [same, ← last.divided, ← between, List.append_assoc]
  have front : dropBytes? i.offset i.source = some (text ++ j.rest) := by
    rw [source, first.offset_eq, dropBytes?_append]
  rw [sliceUntil?, if_pos ⟨same, by omega⟩, front, Option.bind_some, offset,
    Nat.add_sub_cancel_left, takeBytes?_append]

/-- A text is cut out between two cursors exactly if they are over one text and the
second one passed it behind the first one. -/
theorem Placed.sliceUntil?_eq_some_iff (first : i.Placed) (last : j.Placed)
    {text : List Char} :
    i.sliceUntil? j = some text ↔ i.source = j.source ∧ i.consumed ++ text = j.consumed := by
  constructor
  · intro cut
    by_cases valid : i.source = j.source ∧ i.offset ≤ j.offset
    · obtain ⟨between, longer⟩ := first.exists_between last valid.1 valid.2
      have unique := first.sliceUntil?_of_append last valid.1 longer
      rw [Option.some.inj (cut.symm.trans unique)]
      exact ⟨valid.1, longer⟩
    · rw [sliceUntil?, if_neg valid] at cut
      contradiction
  · rintro ⟨same, between⟩
    exact first.sliceUntil?_of_append last same between

/-- Something is cut out exactly between a cursor and one that is not before it in
the same text. -/
theorem Placed.sliceUntil?_isSome_iff (first : i.Placed) (last : j.Placed) :
    (i.sliceUntil? j).isSome ↔ i.source = j.source ∧ i.offset ≤ j.offset := by
  constructor
  · intro cut
    obtain ⟨text, cut⟩ := Option.isSome_iff_exists.1 cut
    obtain ⟨same, between⟩ := (first.sliceUntil?_eq_some_iff last).1 cut
    refine ⟨same, ?_⟩
    rw [first.offset_eq, last.offset_eq, ← between, byteSize_append]
    exact Nat.le_add_right _ _
  · rintro ⟨same, ordered⟩
    obtain ⟨between, longer⟩ := first.exists_between last same ordered
    rw [first.sliceUntil?_of_append last same longer]
    rfl

/-- The bytes of what is cut out are those between the two offsets. -/
theorem Placed.extract_of_sliceUntil? (first : i.Placed) (last : j.Placed)
    {text : List Char} (cut : i.sliceUntil? j = some text) :
    i.source.utf8Encode.extract i.offset j.offset = text.utf8Encode := by
  obtain ⟨same, between⟩ := (first.sliceUntil?_eq_some_iff last).1 cut
  have start : i.offset = i.consumed.utf8Encode.size := by
    rw [first.offset_eq, byteSize_eq_size]
  have stop : j.offset = (i.consumed.utf8Encode ++ text.utf8Encode).size := by
    rw [last.offset_eq, ← between, byteSize_eq_size, List.utf8Encode_append]
  rw [same, ← last.divided, ← between, List.utf8Encode_append, List.utf8Encode_append, stop,
    ByteArray.extract_append_size_left]
  exact ByteArray.extract_append_eq_right start ByteArray.size_append

/-- What is cut out up to a cursor and what is cut out from there join up. -/
theorem Placed.sliceUntil?_append (first : i.Placed) (second : j.Placed) (last : k.Placed)
    {xs ys : List Char} (front : i.sliceUntil? j = some xs) (back : j.sliceUntil? k = some ys) :
    i.sliceUntil? k = some (xs ++ ys) := by
  obtain ⟨same, before⟩ := (first.sliceUntil?_eq_some_iff second).1 front
  obtain ⟨same', behind⟩ := (second.sliceUntil?_eq_some_iff last).1 back
  exact first.sliceUntil?_of_append last (same.trans same')
    (by rw [← List.append_assoc, before, behind])

/-! ## A family -/

/-- A request to a family of cursors, which are numbered as they were made. -/
inductive Request where
  | new (text : String)
  | clone (number : Nat)
  | operate (number : Nat) (operation : Operation)

/-- The family after a request. -/
def serve (family : List Cursor) : Request → List Cursor
  | .new text => family ++ [start text]
  | .clone number => family ++ family[number]?.toList
  | .operate number operation => family.modify number operation.perform

/-- The family after a number of requests. -/
def run (requests : List Request) : List Cursor :=
  requests.foldl serve []

/-- What a request leaves in the family was made, copied or moved by it, or was
there before. -/
theorem mem_serve {family : List Cursor} {request : Request} {cursor : Cursor}
    (member : cursor ∈ serve family request) :
    (∃ text, request = .new text ∧ cursor = start text) ∨
      ∃ older ∈ family, ∃ stretch, Passes older stretch cursor := by
  cases request with
  | new text =>
    rcases List.mem_append.1 member with older | made
    · exact .inr ⟨cursor, older, [], .refl cursor⟩
    · exact .inl ⟨text, rfl, List.mem_singleton.1 made⟩
  | clone number =>
    rcases List.mem_append.1 member with older | copied
    · exact .inr ⟨cursor, older, [], .refl cursor⟩
    · have original := List.mem_of_getElem? (Option.mem_toList.1 copied)
      exact .inr ⟨cursor, original, [], .refl cursor⟩
  | operate number operation =>
    obtain ⟨n, found⟩ := List.mem_iff_getElem?.1 member
    rw [serve, List.getElem?_modify, Option.map_eq_map, Option.map_eq_some_iff] at found
    obtain ⟨older, before, after⟩ := found
    refine .inr ⟨older, List.mem_of_getElem? before, ?_⟩
    split at after
    · rw [← after]
      exact ⟨_, operation.passes older⟩
    · exact ⟨[], after ▸ .refl older⟩

/-- All cursors of a family are placed in one of the texts that were requested. -/
theorem placed_run (requests : List Request) :
    ∀ cursor ∈ run requests, cursor.Placed ∧
      ∃ text, .new text ∈ requests ∧ cursor.source = text.toList := by
  induction requests using List.reverseRecOn with
  | nil => exact fun _ member => nomatch member
  | append_singleton requests request ih =>
    intro cursor member
    rw [run, List.foldl_append] at member
    rcases mem_serve member with ⟨text, rfl, rfl⟩ | ⟨older, before, stretch, passes⟩
    · exact ⟨placed_start text, text, by simp, rfl⟩
    · obtain ⟨placed, text, requested, source⟩ := ih older before
      exact ⟨placed.passes passes, text, List.mem_append_left _ requested,
        passes.source.trans source⟩

/-- What holds of a family of cursors, made by a number of requests. -/
structure Coherent (requests : List Request) (family : List Cursor) : Prop where
  source : ∀ c ∈ family, ∃ text, .new text ∈ requests ∧ c.source = text.toList
  divided : ∀ c ∈ family, c.consumed ++ c.rest = c.source
  offset : ∀ c ∈ family, c.offset = c.consumed.utf8Encode.size
  line : ∀ c ∈ family, c.line = 1 + c.consumed.count '\n'
  atEnd : ∀ c ∈ family, c.isAtEnd ↔ c.rest = []
  moved : ∀ c ∈ family, ∀ operation : Operation,
    Passes c (operation.stretch c.rest) (operation.perform c)
  unchanged : ∀ number, serve family (.operate number .peek) = family ∧
    serve family (.operate number .peekNext) = family
  samePlace : ∀ i ∈ family, ∀ j ∈ family,
    i.samePlace j ↔ i.source = j.source ∧ i.offset = j.offset
  sameLine : ∀ i ∈ family, ∀ j ∈ family, i.samePlace j → i.line = j.line
  sliced : ∀ i ∈ family, ∀ j ∈ family,
    (i.sliceUntil? j).isSome ↔ i.source = j.source ∧ i.offset ≤ j.offset
  between : ∀ i ∈ family, ∀ j ∈ family, ∀ text, i.sliceUntil? j = some text →
    i.consumed ++ text = j.consumed ∧
      i.source.utf8Encode.extract i.offset j.offset = text.utf8Encode
  joined : ∀ i ∈ family, ∀ j ∈ family, ∀ k ∈ family, ∀ xs ys,
    i.sliceUntil? j = some xs → j.sliceUntil? k = some ys → i.sliceUntil? k = some (xs ++ ys)

/-- Whatever is requested, the cursors divide their texts, every operation passes its
stretch, looking ahead passes nothing, and they are compared and cut by text and offset. -/
theorem coherent_run (requests : List Request) : Coherent requests (run requests) := by
  have placed : ∀ c ∈ run requests, c.Placed := fun c member =>
    (placed_run requests c member).1
  exact {
    source := fun c member => (placed_run requests c member).2
    divided := fun c member => (placed c member).divided
    offset := fun c member => by rw [(placed c member).offset_eq, byteSize_eq_size]
    line := fun c member => (placed c member).line
    atEnd := fun c _ => List.isEmpty_iff
    moved := fun c _ operation => operation.passes c
    unchanged := fun number => ⟨List.modify_id number _, List.modify_id number _⟩
    samePlace := fun i first j last => by
      rw [(placed i first).samePlace_iff (placed j last)]
      exact and_congr_right ((placed i first).consumed_eq_iff (placed j last))
    sameLine := fun i first j last same => by
      rw [(placed i first).samePlace_iff (placed j last)] at same
      rw [(placed i first).line, (placed j last).line, same.2]
    sliced := fun i first j last => (placed i first).sliceUntil?_isSome_iff (placed j last)
    between := fun i first j last text cut =>
      ⟨(((placed i first).sliceUntil?_eq_some_iff (placed j last)).1 cut).2,
        (placed i first).extract_of_sliceUntil? (placed j last) cut⟩
    joined := fun i first j second k last xs ys front back =>
      (placed i first).sliceUntil?_append (placed j second) (placed k last) front back }

example :
    (run [.new "aé\nb", .clone 0, .operate 0 (.nth 1), .clone 0, .operate 2 .next]).map
      (fun c => (c.offset, c.line)) = [(3, 1), (0, 1), (4, 2)] := by
  decide

end Cursor

end LoxExpr.Text
