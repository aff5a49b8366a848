import LoxExpr.Grammar.Session

/-!
# Places of a session

A session keeps a position, while the grammar works on lists of remaining tokens.  The
two views agree as long as what remains is an end of the tokens, which is all that a parse
and a recovery leave behind.

Main results:

- Theorem `Session.isEnd_peek`: a session looks at the end exactly when what remains is at
  the end.
- Theorems `Session.rest_moveTo` and `Session.position_moveTo`: moving to an end of what
  remains leaves that end, behind the tokens that were passed.
- Theorem `Session.parse_eq_conclude`: a parse is a descent whose outcome is settled by the
  session.
- Theorem `Session.inside_answer`: no call makes a session leave its tokens.
-/

namespace LoxExpr

namespace Session

/-! ## Moving -/

/-- A session that starts has all of its tokens before it. -/
@[simp] theorem rest_start (tokens : List Token) : (start tokens).rest = tokens :=
  List.drop_zero

@[simp] theorem front_cons (s : Session) (t : Token) (rest : List Token) :
    s.front (t :: rest) = t := rfl

/-- A session looks at the end exactly when the remaining tokens are at the end. -/
theorem isEnd_peek (s : Session) : s.peek.isEnd = Grammar.atEnd s.rest := by
  cases remains : s.rest with
  | nil =>
    rw [peek_of_rest_eq_nil remains]
    rfl
  | cons t rest =>
    rw [peek_of_rest_eq_cons remains]
    rfl

/-- A session that moved to an end of its tokens has these before it. -/
theorem rest_moveTo_of_suffix {s : Session} {rest : List Token} (suffix : rest <:+ s.tokens) :
    (s.moveTo rest).rest = rest := by
  rcases suffix with ⟨front, same⟩
  have count : s.tokens.length - rest.length = front.length := by
    rw [← same, List.length_append]
    omega
  have dropped : (s.moveTo rest).rest = s.tokens.drop (s.tokens.length - rest.length) := rfl
  rw [dropped, count, ← same, List.drop_left]

/-- A session that moved to some of its remaining tokens has these before it. -/
theorem rest_moveTo {s : Session} {used rest : List Token} (whole : s.rest = used ++ rest) :
    (s.moveTo rest).rest = rest :=
  rest_moveTo_of_suffix
    ((List.suffix_append used rest).trans (whole ▸ List.drop_suffix s.position s.tokens))

/-- Whether a position is among the tokens or right behind the last one. -/
def Inside (s : Session) : Prop :=
  s.position ≤ s.tokens.length

/-- A session that is where its remaining tokens begin moves nowhere else. -/
theorem moveTo_rest {s : Session} (inside : s.Inside) : s.moveTo s.rest = s := by
  have position : s.tokens.length - s.rest.length = s.position := by
    rw [rest, List.length_drop]
    exact Nat.sub_sub_self inside
  rw [moveTo, position]

/-- A session that has tokens before it is not behind the last one. -/
theorem position_le_of_rest_ne_nil {s : Session} (more : s.rest ≠ []) :
    s.position ≤ s.tokens.length := by
  have positive := List.length_pos_iff.2 more
  simp only [Session.rest, List.length_drop] at positive
  omega

/-- A session moves by the number of tokens that it passes. -/
theorem position_moveTo {s : Session} {used rest : List Token} (whole : s.rest = used ++ rest)
    (inside : s.position ≤ s.tokens.length) :
    (s.moveTo rest).position = s.position + used.length := by
  have total := congrArg List.length whole
  simp only [Session.rest, List.length_drop, List.length_append] at total
  simp only [moveTo]
  omega

/-! ## Settling a descent -/

/-- The failure that is reported for a descent that got stuck. -/
def failureAt (s : Session) (stuck : Grammar.Stuck) : ParseError :=
  ⟨stuck.reason, s.front stuck.rest⟩

/-- The session behind a descent that got stuck: it stays there and reports the failure. -/
def stoppedAt (s : Session) (stuck : Grammar.Stuck) : Session :=
  { s.moveTo stuck.rest with reported := s.reported ++ [(s.failureAt stuck).diagnostic] }

/-- What a session makes of the outcome of a descent. -/
def conclude (s : Session) : Grammar.Reading → Except ParseError Expr × Session
  | .ok (e, rest) => (.ok e, s.moveTo rest)
  | .error stuck => (.error (s.failureAt stuck), s.stoppedAt stuck)

/-- A session stays among its tokens. -/
theorem inside_conclude (s : Session) (reading : Grammar.Reading) :
    (s.conclude reading).2.Inside := by
  cases reading with
  | ok parsed => exact Nat.sub_le _ _
  | error stuck => exact Nat.sub_le _ _

/-- A parse is a descent for a complete expression. -/
theorem parse_eq_conclude (s : Session) :
    s.parse = s.conclude (Grammar.complete Grammar.maxDepth s.rest) := by
  unfold parse
  cases Grammar.complete Grammar.maxDepth s.rest with
  | ok reading => rfl
  | error stuck => rfl

/-- No answer makes a session leave its tokens. -/
theorem inside_answer {s : Session} (inside : s.Inside) (call : Call) :
    (s.answer call).2.Inside := by
  cases call with
  | parse =>
    have next : (s.answer .parse).2 = s.parse.2 := rfl
    rw [next, parse_eq_conclude]
    exact inside_conclude _ _
  | synchronize => exact Nat.sub_le _ _
  | peek => exact inside

end Session

end LoxExpr
