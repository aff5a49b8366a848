import LoxExpr.Proofs.Grammar.Outlook
import LoxExpr.Proofs.Grammar.Walker

/-!
# The conduct of sessions over whole runs

What holds of a session whatever it has been asked for since it started.  It reports every
failure once and nothing else, it never passes an end, and once a parse has succeeded it
stays in front of the end.  Its next parse is that of a session that starts afresh on what
remains.  The same is true of a walker, which reports in the middle of a production and
leaves its count of levels where a failure found it.

Main results:

- Theorem `Session.run_disciplined`: a run reports each failed parse, where it stands, and
  nothing else.
- Theorem `Session.parse_forgetful`: a parse does not depend on what happened before it.
-/

namespace LoxExpr

namespace Grammar

/-- Where there is nothing, an expression is missing. -/
theorem complete_nil (limit : Nat) :
    complete limit [] = .error ⟨.expectedExpression, []⟩ := by
  have primary : Fails limit (.follow .primary) [] ⟨.expectedExpression, []⟩ := .nothing nofun
  have multiplication : Fails limit (.follow (.chain .multiplication)) [] _ :=
    .operand (.primary nofun primary)
  have equality : Fails limit (.follow (.chain .equality)) [] _ :=
    .operand (.operand (.operand multiplication))
  exact complete_eq_error.2 (.inl (.expression (.operand (.condition equality))))

end Grammar

/-! ## At the end -/

namespace Outlook

/-- Where nothing is ahead, every call leaves it at that. -/
theorem answer_of_ahead_eq_nil {o : Outlook} (hnil : o.ahead = []) (call : Session.Call) :
    (o.answer call).2 = o := by
  rcases o with ⟨ahead, closing⟩
  obtain rfl : ahead = [] := hnil
  cases call with
  | parse =>
    simp only [answer, parse, Grammar.complete_nil]
    rfl
  | synchronize | peek => rfl

/-- Where nothing is ahead, no calls change that. -/
theorem run_of_ahead_eq_nil {o : Outlook} (hnil : o.ahead = []) (calls : List Session.Call) :
    (o.run calls).2 = o := by
  induction calls with
  | nil => rfl
  | cons call calls ih =>
    simp only [run, answer_of_ahead_eq_nil hnil call]
    exact ih

/-- Where nothing is ahead, an expression is missing in front of the end. -/
theorem parse_of_ahead_eq_nil {o : Outlook} (hnil : o.ahead = []) :
    o.parse.1 = .error ⟨.expectedExpression, o.peek⟩ := by
  rcases o with ⟨ahead, closing⟩
  obtain rfl : ahead = [] := hnil
  simp only [parse, Grammar.complete_nil]
  rfl

end Outlook

namespace Session

/-- The end that is ahead is an end. -/
theorem isEnd_closing (s : Session) : s.outlook.closing.isEnd = true := by
  have ends := s.atEnd_beyond
  have shown : s.outlook.closing = s.front s.beyond := rfl
  rw [shown]
  cases remains : s.beyond with
  | nil => rfl
  | cons t rest =>
    rw [remains] at ends
    exact ends

variable {s : Session}

/-- Behind a tree that is parsed nothing is ahead. -/
theorem ahead_of_parse_ok (inside : s.Inside) {e : Expr} (parsed : s.parse.1 = .ok e) :
    s.parse.2.outlook.ahead = [] := by
  rcases parse_outlook inside with ⟨result, next, _⟩
  rw [result] at parsed
  rw [next]
  unfold Outlook.parse at parsed ⊢
  cases outcome : Grammar.complete Grammar.maxDepth s.outlook.ahead with
  | error stuck =>
    rw [outcome] at parsed
    contradiction
  | ok reading =>
    rcases reading with ⟨tree, rest⟩
    rcases Grammar.complete_eq_ok.1 outcome with ⟨read, ends⟩
    rcases read.exists_append with ⟨used, whole⟩
    cases rest with
    | nil => rfl
    | cons t rest =>
      have notEnd := s.isEnd_eq_false_of_mem_ahead t (by simp [whole])
      rw [show t.isEnd = true from ends] at notEnd
      contradiction

/-! ## Reports -/

/-- How a session stands that has given some answers since it started on a list of tokens
when something had been reported, and how it answers the next call. -/
structure Disciplined (ts : List Token) (sink : List Diagnostic) (answers : List Answer)
    (s : Session) : Prop where
  position_le : s.position ≤ (Grammar.beforeEnd ts).length
  advances : ∀ call, s.position ≤ (s.answer call).2.position
  parsed : ∀ e next, s.parse = (.ok e, next) →
    next.reported = s.reported ∧ next.peek.isEnd = true ∧
      ∀ calls, (next.run calls).2.position = next.position ∧
        (next.run calls).2.parse.1 = .error ⟨.expectedExpression, next.peek⟩
  failed : ∀ failure next, s.parse = (.error failure, next) →
    next.reported = s.reported ++ [failure.diagnostic] ∧ failure.token = next.peek
  silent : ∀ call, call ≠ .parse → (s.answer call).2.reported = s.reported
  reported : s.reported = sink ++ (failures answers).map ParseError.diagnostic

/-- Behind a tree that is parsed a session is in front of the end, and stays there. -/
theorem parsed_at_end (inside : s.Inside) {e : Expr} {next : Session}
    (parsed : s.parse = (.ok e, next)) :
    next.peek.isEnd = true ∧
      ∀ calls, (next.run calls).2.position = next.position ∧
        (next.run calls).2.parse.1 = .error ⟨.expectedExpression, next.peek⟩ := by
  have hnil : next.outlook.ahead = [] := by
    have nothing := ahead_of_parse_ok inside (congrArg Prod.fst parsed)
    rwa [parsed] at nothing
  have insideNext : next.Inside := by
    have within := inside_answer inside .parse
    rw [answer, parsed] at within
    exact within
  constructor
  · rw [peek_outlook, Outlook.peek, hnil]
    exact next.isEnd_closing
  · intro calls
    rcases run_outlook insideNext calls with ⟨_, last, moves⟩
    rw [Outlook.run_of_ahead_eq_nil hnil] at last
    have stays := moves.position_add_length
    rw [last] at stays
    refine ⟨Nat.add_right_cancel stays, ?_⟩
    rw [(parse_outlook (moves.inside insideNext)).1, last, Outlook.parse_of_ahead_eq_nil hnil,
      peek_outlook]

/-- A parse that fails stays at the token where it failed. -/
theorem failed_at_peek (inside : s.Inside) {failure : ParseError} {next : Session}
    (failed : s.parse = (.error failure, next)) : failure.token = next.peek := by
  rcases parse_outlook inside with ⟨result, seen, _⟩
  rw [failed] at result seen
  rw [peek_outlook, seen]
  unfold Outlook.parse at result ⊢
  cases outcome : Grammar.complete Grammar.maxDepth s.outlook.ahead with
  | ok reading =>
    rw [outcome] at result
    contradiction
  | error stuck =>
    rw [outcome] at result
    cases result
    rfl

/-- Whatever it is asked for, a session stays in front of the first end and does not go
back.  A parse that succeeds reports nothing and comes to the end, where every later parse
misses an expression.  A parse that fails reports its failure once, at the token that is
seen behind it.  No other call reports anything, so the reports are those from before and
one for each failed parse, in order.  A walker, which reports where it fails in the middle
of a production, gives the same answers and comes to the same state. -/
theorem run_disciplined (ts : List Token) (sink : List Diagnostic) (calls : List Call) :
    Disciplined ts sink ((startAfter sink ts).run calls).1 ((startAfter sink ts).run calls).2 ∧
      ∃ depth, Walk.run calls ⟨startAfter sink ts, 0⟩ =
        some (.ok ((startAfter sink ts).run calls).1,
          ⟨((startAfter sink ts).run calls).2, depth⟩) := by
  have start := inside_startAfter sink ts
  refine ⟨?_, Walk.run_apply start calls 0⟩
  rcases run_outlook start calls with ⟨_, _, moves⟩
  have told := reported_run (startAfter sink ts) calls
  have inside := moves.inside start
  have whole := moves.position_add_length
  generalize ((startAfter sink ts).run calls).2 = s at *
  constructor
  case position_le =>
    have all : (startAfter sink ts).outlook.ahead = Grammar.beforeEnd ts := by
      rw [outlook, rest_startAfter]
    have first : (startAfter sink ts).position = 0 := rfl
    rw [all, first] at whole
    omega
  case advances =>
    intro call
    rcases (answer_outlook inside call).2.2.passes with ⟨used, _, position⟩
    omega
  case parsed =>
    intro e next parsed
    have silent := reported_answer s .parse
    simp only [answer, parsed] at silent
    exact ⟨silent.trans (List.append_nil _), parsed_at_end inside parsed⟩
  case failed =>
    intro failure next failed
    have loud := reported_answer s .parse
    simp only [answer, failed] at loud
    exact ⟨loud, failed_at_peek inside failed⟩
  case silent =>
    intro call other
    cases call with
    | parse => contradiction
    | synchronize | peek => rfl
  case reported => exact told

/-! ## History -/

/-- A session that starts afresh on what remains, with the end behind it. -/
def afresh (s : Session) : Session :=
  start (s.rest ++ [s.endToken])

/-- Whether the next parse of a session is that of the session that starts afresh: it gives
the same result, reports the same and passes as many tokens.  For walkers this is to be so
whatever they have counted. -/
structure Forgetful (s : Session) : Prop where
  result : s.parse.1 = s.afresh.parse.1
  reported : ∃ told, s.parse.2.reported = s.reported ++ told ∧ s.afresh.parse.2.reported = told
  position : s.parse.2.position = s.position + s.afresh.parse.2.position
  counted : ∀ depth, ∃ after, Walk.parse ⟨s, depth⟩ = some (s.parse.1, ⟨s.parse.2, after⟩)
  uncounted : ∃ after, Walk.parse ⟨s.afresh, 0⟩ =
    some (s.afresh.parse.1, ⟨s.afresh.parse.2, after⟩)

/-- Whatever has been asked for before, and whatever a walker has counted then, the next
parse is that of a session that starts afresh on what remains. -/
theorem parse_forgetful (ts : List Token) (sink : List Diagnostic) (calls : List Call) :
    Forgetful ((startAfter sink ts).run calls).2 ∧
      ∃ depth, Walk.run calls ⟨startAfter sink ts, 0⟩ =
        some (.ok ((startAfter sink ts).run calls).1,
          ⟨((startAfter sink ts).run calls).2, depth⟩) := by
  have start := inside_startAfter sink ts
  refine ⟨?_, Walk.run_apply start calls 0⟩
  have inside := (run_outlook start calls).2.2.inside start
  generalize ((startAfter sink ts).run calls).2 = s at *
  have outlook : s.afresh.outlook = s.outlook := outlook_startAfter_rest [] s
  have first : s.afresh.Inside := Nat.zero_le _
  rcases parse_outlook inside with ⟨result, next, moves⟩
  rcases parse_outlook first with ⟨result', next', moves'⟩
  rw [outlook] at result' next'
  have same : s.parse.1 = s.afresh.parse.1 := result.trans result'.symm
  constructor
  case result => exact same
  case reported =>
    have told := reported_answer s .parse
    have told' := reported_answer s.afresh .parse
    simp only [answer, same] at told told'
    exact ⟨_, told, told'⟩
  case position =>
    have whole := moves.position_add_length
    have whole' := moves'.position_add_length
    have zero : s.afresh.position = 0 := rfl
    rw [next] at whole
    rw [next', outlook, zero] at whole'
    omega
  case counted => exact Walk.parse_apply inside
  case uncounted => exact Walk.parse_apply first 0

end Session

end LoxExpr
