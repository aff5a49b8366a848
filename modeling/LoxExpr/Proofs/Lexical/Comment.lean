import LoxExpr.Lexical.Segment

/-!
# Markers of block comments

A block comment nests, and it ends at the first place where as many markers closed as
were opened, if its text is read from left to right.  A scanner counts the comments that
are still open instead, and this module proves that the two agree.

Main results:

- Theorem `blockCommentTail?_eq_some`: counting the open comments finds the first place
  where the markers are balanced.
- Theorem `blockCommentTail?_eq_none`: counting fails only if they are nowhere balanced.
- Theorem `FirstCloses.unique`: there is one first place only.
-/

namespace LoxExpr.Lexical

/-! ## Reading a comment -/

/-- What a comment is read as: its markers, and the characters between them. -/
inductive CommentPiece
  | opening
  | closing
  | other (c : Char)
deriving DecidableEq

/-- The characters of a piece. -/
def CommentPiece.text : CommentPiece → List Char
  | .opening => ['/', '*']
  | .closing => ['*', '/']
  | .other c => [c]

/-- Reads a text from left to right.  A character belongs to one marker at most. -/
def commentPieces : List Char → List CommentPiece
  | [] => []
  | '/' :: '*' :: cs => .opening :: commentPieces cs
  | '*' :: '/' :: cs => .closing :: commentPieces cs
  | c :: cs => .other c :: commentPieces cs

/-! ## Balanced markers -/

/-- Whether some pieces close a number of comments more than they open. -/
def Closes (n : Nat) (pieces : List CommentPiece) : Prop :=
  pieces.count .closing = pieces.count .opening + n

/-- Whether some pieces close a number of comments, and no fewer of them do. -/
def FirstCloses (n : Nat) (pieces : List CommentPiece) : Prop :=
  Closes n pieces ∧ ∀ earlier, earlier <+: pieces → Closes n earlier → earlier = pieces

/-- Whether as many comments are closed as opened, and not earlier behind the first
piece. -/
def FirstBalanced (pieces : List CommentPiece) : Prop :=
  Closes 0 pieces ∧ ∀ earlier, earlier <+: pieces → earlier ≠ [] → Closes 0 earlier →
    earlier = pieces

/-- Pieces that close comments are not empty. -/
theorem not_closes_nil {n : Nat} (positive : 0 < n) : ¬Closes n [] := by
  simp only [Closes, List.count_nil]
  omega

/-- An opening leaves one more comment to be closed. -/
theorem closes_opening {n : Nat} {pieces : List CommentPiece} :
    Closes n (.opening :: pieces) ↔ Closes (n + 1) pieces := by
  simp [Closes]
  omega

/-- A closing leaves one comment less. -/
theorem closes_closing {n : Nat} {pieces : List CommentPiece} :
    Closes (n + 1) (.closing :: pieces) ↔ Closes n pieces := by
  simp [Closes]
  omega

/-- A character between the markers closes nothing. -/
theorem closes_other {n : Nat} {c : Char} {pieces : List CommentPiece} :
    Closes n (.other c :: pieces) ↔ Closes n pieces := by
  simp [Closes]

/-- The first place behind a piece is the first place behind what follows it. -/
theorem FirstCloses.cons {n m : Nat} {piece : CommentPiece} {pieces : List CommentPiece}
    (first : FirstCloses m pieces) (positive : 0 < n)
    (step : ∀ {later}, Closes n (piece :: later) ↔ Closes m later) :
    FirstCloses n (piece :: pieces) := by
  refine ⟨step.2 first.1, fun earlier begins closes => ?_⟩
  rcases List.prefix_cons_iff.1 begins with rfl | ⟨later, rfl, laterBegins⟩
  · exact absurd closes (not_closes_nil positive)
  · rw [first.2 later laterBegins (step.1 closes)]

/-- What is not closed behind a piece is not closed. -/
theorem not_closes_cons {n m : Nat} {piece : CommentPiece} {pieces : List CommentPiece}
    (unclosed : ∀ earlier, earlier <+: pieces → ¬Closes m earlier) (positive : 0 < n)
    (step : ∀ {later}, Closes n (piece :: later) ↔ Closes m later) :
    ∀ earlier, earlier <+: piece :: pieces → ¬Closes n earlier := by
  intro earlier begins closes
  rcases List.prefix_cons_iff.1 begins with rfl | ⟨later, rfl, laterBegins⟩
  · exact not_closes_nil positive closes
  · exact unclosed later laterBegins (step.1 closes)

/-! ## Counting the open comments -/

/-- A comment that is closed reaches to the first place where its markers are balanced. -/
theorem blockCommentTail?_eq_some {outer : Nat} {cs tail rest : List Char}
    (h : blockCommentTail? outer cs = some (tail, rest)) :
    ∃ pieces, commentPieces cs = pieces ++ commentPieces rest ∧
      pieces.flatMap CommentPiece.text = tail ∧ FirstCloses (outer + 1) pieces := by
  -- With `outer + 1` comments open, the piece in front moves the first place by itself only.
  fun_induction blockCommentTail? outer cs generalizing tail rest with
  | case1 => simp at h
  | case2 cs =>
    obtain ⟨rfl, rfl⟩ : ['*', '/'] = tail ∧ cs = rest := by simpa using h
    refine ⟨[.closing], by simp [commentPieces], rfl, closes_closing.2 rfl, ?_⟩
    intro earlier begins closes
    rcases List.prefix_cons_iff.1 begins with rfl | ⟨later, rfl, laterBegins⟩
    · exact absurd closes (not_closes_nil Nat.one_pos)
    · rw [List.prefix_nil.1 laterBegins]
  | case3 cs n ih =>
    rcases Option.map_eq_some_iff.1 h with ⟨⟨inner, after⟩, closed, same⟩
    obtain ⟨rfl, rfl⟩ : '*' :: '/' :: inner = tail ∧ after = rest := by simpa using same
    rcases ih closed with ⟨pieces, whole, text, first⟩
    refine ⟨.closing :: pieces, by simp [commentPieces, whole], ?_, ?_⟩
    · simp [text, CommentPiece.text]
    · exact first.cons (Nat.succ_pos _) closes_closing
  | case4 outer cs ih =>
    rcases Option.map_eq_some_iff.1 h with ⟨⟨inner, after⟩, closed, same⟩
    obtain ⟨rfl, rfl⟩ : '/' :: '*' :: inner = tail ∧ after = rest := by simpa using same
    rcases ih closed with ⟨pieces, whole, text, first⟩
    refine ⟨.opening :: pieces, by simp [commentPieces, whole], ?_, ?_⟩
    · simp [text, CommentPiece.text]
    · exact first.cons (Nat.succ_pos _) closes_opening
  | case5 outer c cs notClosing notOpening ih =>
    rcases Option.map_eq_some_iff.1 h with ⟨⟨inner, after⟩, closed, same⟩
    obtain ⟨rfl, rfl⟩ : c :: inner = tail ∧ after = rest := by simpa using same
    rcases ih closed with ⟨pieces, whole, text, first⟩
    have read : commentPieces (c :: cs) = .other c :: commentPieces cs :=
      commentPieces.eq_4 c cs notOpening notClosing
    refine ⟨.other c :: pieces, by simp [read, whole], ?_, ?_⟩
    · simp [text, CommentPiece.text]
    · exact first.cons (Nat.succ_pos _) closes_other

/-- The markers of a comment that is not closed are nowhere balanced. -/
theorem blockCommentTail?_eq_none {outer : Nat} {cs : List Char}
    (h : blockCommentTail? outer cs = none) :
    ∀ pieces, pieces <+: commentPieces cs → ¬Closes (outer + 1) pieces := by
  fun_induction blockCommentTail? outer cs with
  | case1 =>
    intro pieces begins
    rw [List.prefix_nil.1 begins]
    exact not_closes_nil (Nat.succ_pos _)
  | case2 cs => simp at h
  | case3 cs n ih =>
    simp only [commentPieces]
    exact not_closes_cons (ih (Option.map_eq_none_iff.1 h)) (Nat.succ_pos _) closes_closing
  | case4 outer cs ih =>
    simp only [commentPieces]
    exact not_closes_cons (ih (Option.map_eq_none_iff.1 h)) (Nat.succ_pos _) closes_opening
  | case5 outer c cs notClosing notOpening ih =>
    rw [commentPieces.eq_4 c cs notOpening notClosing]
    exact not_closes_cons (ih (Option.map_eq_none_iff.1 h)) (Nat.succ_pos _) closes_other

/-- Behind the opening of a comment, it closes where its markers are balanced. -/
theorem firstBalanced_opening {pieces : List CommentPiece} :
    FirstBalanced (.opening :: pieces) ↔ FirstCloses 1 pieces := by
  constructor
  · intro parts
    rcases parts with ⟨balanced, first⟩
    refine ⟨closes_opening.1 balanced, fun earlier begins closes => ?_⟩
    have same := first (.opening :: earlier) (List.prefix_cons_inj _ |>.2 begins)
      (List.cons_ne_nil _ _) (closes_opening.2 closes)
    exact (List.cons.inj same).2
  · intro parts
    rcases parts with ⟨closes, first⟩
    refine ⟨closes_opening.2 closes, fun earlier begins nonempty balanced => ?_⟩
    rcases List.prefix_cons_iff.1 begins with rfl | ⟨later, rfl, laterBegins⟩
    · contradiction
    · rw [first later laterBegins (closes_opening.1 balanced)]

/-- There is one first place only. -/
theorem FirstCloses.unique {n : Nat} {pieces others whole : List CommentPiece}
    (first : FirstCloses n pieces) (second : FirstCloses n others)
    (begins : pieces <+: whole) (othersBegin : others <+: whole) : pieces = others := by
  rcases List.prefix_or_prefix_of_prefix begins othersBegin with shorter | longer
  · exact second.2 pieces shorter first.1
  · exact (first.2 others longer second.1).symm

/-- A text begins with an opening exactly when it begins with its characters. -/
theorem head?_commentPieces {cs : List Char} :
    (commentPieces cs).head? = some .opening ↔ ∃ inner, cs = '/' :: '*' :: inner := by
  fun_cases commentPieces cs with
  | case1 => simp
  | case2 inner => simp
  | case3 inner => simp
  | case4 c inner notOpening _ =>
    simp only [List.head?_cons, Option.some.injEq, reduceCtorEq, false_iff, not_exists]
    intro after same
    rcases List.cons.inj same with ⟨rfl, rfl⟩
    exact notOpening after rfl rfl

end LoxExpr.Lexical
