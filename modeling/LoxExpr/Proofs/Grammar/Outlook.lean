import LoxExpr.Proofs.Grammar.Failure
import LoxExpr.Proofs.Grammar.Session

/-!
# The outlook of a session

What a session has before it is the tokens in front of the first end and that end, which is
thought of behind the last token if there is none among them.  Nothing else has an influence
on its answers, so a session is known by its outlook: calls are answered in terms of it, and
the position moves on by as many tokens as are taken from it.

Main results:

- Theorem `Session.answer_outlook`: a session answers as its outlook does, and moves on with
  it.
- Theorem `Session.run_outlook`: the same for calls one after the other.
- Theorem `Session.reported_run`: a run reports exactly its failed parses, in order.
- Theorem `Session.conduct_up_to_end`: what is behind the first end makes no difference, and
  neither does it whether there is an end.
-/

namespace LoxExpr

/-! ## Outlooks -/

/-- What is ahead: some tokens, and the end behind them. -/
structure Outlook where
  ahead : List Token
  closing : Token

namespace Outlook

/-- The next token. -/
def peek (o : Outlook) : Token :=
  o.ahead.head?.getD o.closing

/-- The outlook from a later place. -/
def after (o : Outlook) (later : List Token) : Outlook :=
  { o with ahead := later }

/-- Parses one expression that has to reach up to the end. -/
def parse (o : Outlook) : Except ParseError Expr × Outlook :=
  match Grammar.complete Grammar.maxDepth o.ahead with
  | .ok (e, rest) => (.ok e, o.after rest)
  | .error stuck => (.error ⟨stuck.reason, (o.after stuck.rest).peek⟩, o.after stuck.rest)

/-- Answers one call. -/
def answer (o : Outlook) : Session.Call → Session.Answer × Outlook
  | .parse => (.parsed o.parse.1, o.parse.2)
  | .synchronize =>
    (.synchronized (Grammar.skipped o.ahead), o.after (Grammar.recover o.ahead))
  | .peek => (.peeked o.peek, o)

/-- Answers calls one after the other. -/
def run (o : Outlook) : List Session.Call → List Session.Answer × Outlook
  | [] => ([], o)
  | call :: calls => ((o.answer call).1 :: ((o.answer call).2.run calls).1,
      ((o.answer call).2.run calls).2)

end Outlook

namespace Session

/-- What remains from the first end on. -/
def beyond (s : Session) : List Token :=
  s.rest.dropWhile fun t => !t.isEnd

/-- The outlook of a session. -/
def outlook (s : Session) : Outlook :=
  ⟨Grammar.beforeEnd s.rest, s.front s.beyond⟩

/-- What remains is what is ahead and what is beyond. -/
theorem rest_eq_append (s : Session) : s.rest = s.outlook.ahead ++ s.beyond :=
  List.takeWhile_append_dropWhile.symm

/-- Nothing that is ahead is an end. -/
theorem isEnd_eq_false_of_mem_ahead {s : Session} :
    ∀ t ∈ s.outlook.ahead, t.isEnd = false :=
  fun _ => Grammar.isEnd_eq_false_of_mem_beforeEnd

/-- What is beyond is at the end. -/
theorem atEnd_beyond (s : Session) : Grammar.atEnd s.beyond = true :=
  Grammar.atEnd_dropWhile s.rest

/-- What is in front of an end, with that end, is the outlook. -/
theorem outlook_eq {s : Session} {ahead beyond : List Token} (whole : s.rest = ahead ++ beyond)
    (inside : ∀ t ∈ ahead, t.isEnd = false) (ends : Grammar.atEnd beyond = true) :
    s.outlook = ⟨ahead, s.front beyond⟩ := by
  have front : s.outlook.ahead = ahead := by
    rw [outlook, whole]
    exact Grammar.beforeEnd_append inside ends
  have back : s.beyond = beyond := by
    have same := s.rest_eq_append.symm.trans whole
    rw [front] at same
    exact List.append_cancel_left same
  rw [← front, ← back]
  rfl

/-- From some of what is ahead, a session sees the first of it. -/
theorem front_append_beyond (s : Session) (later : List Token) :
    s.front (later ++ s.beyond) = (s.outlook.after later).peek := by
  cases later <;> rfl

/-- A session sees the first of its outlook. -/
theorem peek_outlook (s : Session) : s.peek = s.outlook.peek := by
  rw [peek, rest_eq_append, front_append_beyond]
  rfl

/-- Moving on inside of the outlook. -/
structure Moves (s next : Session) : Prop where
  tokens : next.tokens = s.tokens
  closing : next.outlook.closing = s.outlook.closing
  passes : ∃ used, s.outlook.ahead = used ++ next.outlook.ahead ∧
    next.position = s.position + used.length

variable {s : Session}

/-- A session that moves to a later place of what is ahead has the outlook from there. -/
theorem outlook_moveTo {used later : List Token} (divided : s.outlook.ahead = used ++ later) :
    (s.moveTo (later ++ s.beyond)).outlook = s.outlook.after later := by
  have whole : s.rest = used ++ (later ++ s.beyond) := by
    rw [rest_eq_append, divided, List.append_assoc]
  have inside : ∀ t ∈ later, t.isEnd = false := fun t member =>
    isEnd_eq_false_of_mem_ahead t (divided ▸ List.mem_append_right _ member)
  exact outlook_eq (rest_moveTo whole) inside s.atEnd_beyond

/-- A session that moves to a later place of what is ahead moves on. -/
theorem moves_moveTo {used later : List Token} (divided : s.outlook.ahead = used ++ later)
    (inside : s.Inside) : Moves s (s.moveTo (later ++ s.beyond)) := by
  have whole : s.rest = used ++ (later ++ s.beyond) := by
    rw [rest_eq_append, divided, List.append_assoc]
  have outlook := outlook_moveTo divided
  refine ⟨rfl, ?_, used, ?_, position_moveTo whole inside⟩
  · rw [outlook, Outlook.after]
  · rwa [outlook]

namespace Moves

variable {next last : Session}

/-- A session that stays has moved on by nothing. -/
theorem refl (s : Session) : Moves s s :=
  ⟨rfl, rfl, [], rfl, rfl⟩

/-- Moving on twice is moving on. -/
theorem trans (first : Moves s next) (second : Moves next last) : Moves s last := by
  rcases first.passes with ⟨used, divided, position⟩
  rcases second.passes with ⟨more, divided', position'⟩
  refine ⟨second.tokens.trans first.tokens, second.closing.trans first.closing, used ++ more,
    ?_, ?_⟩
  · rw [divided, divided', List.append_assoc]
  · rw [position', position, List.length_append, Nat.add_assoc]

/-- The position and the tokens that are ahead make up the same number. -/
theorem position_add_length (moves : Moves s next) :
    next.position + next.outlook.ahead.length = s.position + s.outlook.ahead.length := by
  rcases moves.passes with ⟨used, divided, position⟩
  rw [divided, List.length_append, position, Nat.add_assoc]

/-- Moving on does not leave the tokens. -/
theorem inside (moves : Moves s next) (inside : s.Inside) : next.Inside := by
  rcases moves.passes with ⟨used, divided, position⟩
  have count := congrArg List.length s.rest_eq_append
  rw [divided] at count
  simp only [rest, List.length_drop, List.length_append] at count
  simp only [Inside, moves.tokens, position] at inside ⊢
  omega

end Moves

/-! ## Answers -/

/-- A session parses as its outlook does. -/
theorem parse_outlook (inside : s.Inside) :
    s.parse.1 = s.outlook.parse.1 ∧ s.parse.2.outlook = s.outlook.parse.2 ∧ Moves s s.parse.2 := by
  rw [parse_eq_conclude, rest_eq_append, Outlook.parse,
    Grammar.complete_append isEnd_eq_false_of_mem_ahead s.atEnd_beyond]
  cases result : Grammar.complete Grammar.maxDepth s.outlook.ahead with
  | ok reading =>
    rcases reading with ⟨e, later⟩
    rcases (Grammar.complete_eq_ok.1 result).1.exists_append with ⟨used, divided⟩
    exact ⟨rfl, outlook_moveTo divided, moves_moveTo divided inside⟩
  | error stuck =>
    rcases Grammar.exists_append_of_complete result with ⟨used, divided⟩
    refine ⟨?_, outlook_moveTo divided, ?_⟩
    · simp only [Grammar.Reading.append, conclude, failureAt, front_append_beyond]
    · rcases moves_moveTo divided inside with ⟨tokens, closing, passes⟩
      exact ⟨tokens, closing, passes⟩

/-- A session recovers as its outlook does. -/
theorem synchronize_outlook (inside : s.Inside) :
    s.synchronize.outlook = s.outlook.after (Grammar.recover s.outlook.ahead) ∧
      Moves s s.synchronize := by
  rcases Grammar.recover_suffix s.outlook.ahead with ⟨used, divided⟩
  have recovered := Grammar.recover_append s.atEnd_beyond s.outlook.ahead
  rw [← rest_eq_append] at recovered
  rw [synchronize, recovered]
  exact ⟨outlook_moveTo divided.symm, moves_moveTo divided.symm inside⟩

/-- A session answers as its outlook does, and moves on with it. -/
theorem answer_outlook (inside : s.Inside) (call : Call) :
    (s.answer call).1 = (s.outlook.answer call).1 ∧
      (s.answer call).2.outlook = (s.outlook.answer call).2 ∧ Moves s (s.answer call).2 := by
  cases call with
  | parse =>
    rcases parse_outlook inside with ⟨result, next, moves⟩
    exact ⟨congrArg Answer.parsed result, next, moves⟩
  | synchronize =>
    rcases synchronize_outlook inside with ⟨next, moves⟩
    have skipped := Grammar.skipped_append s.atEnd_beyond s.outlook.ahead
    rw [← rest_eq_append] at skipped
    exact ⟨congrArg Answer.synchronized skipped, next, moves⟩
  | peek => exact ⟨congrArg Answer.peeked s.peek_outlook, rfl, .refl s⟩

/-- A run answers as the outlook does, and moves on with it. -/
theorem run_outlook (inside : s.Inside) (calls : List Call) :
    (s.run calls).1 = (s.outlook.run calls).1 ∧
      (s.run calls).2.outlook = (s.outlook.run calls).2 ∧ Moves s (s.run calls).2 := by
  induction calls generalizing s with
  | nil => exact ⟨rfl, rfl, .refl s⟩
  | cons call calls ih =>
    rcases answer_outlook inside call with ⟨answer, next, moves⟩
    rcases ih (moves.inside inside) with ⟨answers, last, later⟩
    rw [next] at answers last
    exact ⟨congrArg₂ List.cons answer answers, last, moves.trans later⟩

/-! ## Reports -/

/-- The failure that an answer tells, if it is that of a failed parse. -/
def Answer.failure? : Answer → Option ParseError
  | .parsed (.error failure) => some failure
  | _ => none

/-- The failures that answers tell, in order. -/
def failures (answers : List Answer) : List ParseError :=
  answers.filterMap Answer.failure?

/-- The failure of an answer comes before those of later ones. -/
theorem failures_cons (answer : Answer) (answers : List Answer) :
    failures (answer :: answers) = answer.failure?.toList ++ failures answers := by
  rw [failures, List.filterMap_cons]
  cases answer.failure? <;> rfl

/-- A parse reports its failure, and every other answer is given silently. -/
theorem reported_answer (s : Session) (call : Call) :
    (s.answer call).2.reported =
      s.reported ++ (s.answer call).1.failure?.toList.map ParseError.diagnostic := by
  cases call with
  | parse =>
    simp only [answer, parse_eq_conclude]
    cases Grammar.complete Grammar.maxDepth s.rest with
    | ok reading => exact (List.append_nil _).symm
    | error stuck => rfl
  | synchronize | peek => exact (List.append_nil _).symm

/-- A run reports its failures, in order, and nothing else. -/
theorem reported_run (s : Session) (calls : List Call) :
    (s.run calls).2.reported =
      s.reported ++ (failures (s.run calls).1).map ParseError.diagnostic := by
  induction calls generalizing s with
  | nil => exact (List.append_nil _).symm
  | cons call calls ih =>
    have later := ih (s.answer call).2
    rw [reported_answer, List.append_assoc, ← List.map_append, ← failures_cons] at later
    exact later

/-! ## Up to the first end -/

/-- A session at the start of a list of tokens, when something has been reported. -/
def startAfter (sink : List Diagnostic) (tokens : List Token) : Session :=
  ⟨tokens, 0, sink⟩

/-- A session that starts has all of its tokens before it. -/
@[simp] theorem rest_startAfter (sink : List Diagnostic) (tokens : List Token) :
    (startAfter sink tokens).rest = tokens :=
  List.drop_zero

/-- A session that starts is inside of its tokens. -/
theorem inside_startAfter (sink : List Diagnostic) (tokens : List Token) :
    (startAfter sink tokens).Inside :=
  Nat.zero_le _

/-- Two sessions after the same calls: they have given the same answers and reported the
same, and they look at the same token from the same position. -/
structure SameConduct (s s' : Session) (calls : List Call) : Prop where
  answers : (s.run calls).1 = (s'.run calls).1
  reported : (s.run calls).2.reported = (s'.run calls).2.reported
  peek : (s.run calls).2.peek = (s'.run calls).2.peek
  position : (s.run calls).2.position = (s'.run calls).2.position

/-- Sessions with the same outlook at the same position give the same answers and move alike,
whatever they have reported. -/
theorem run_eq_of_outlook {s s' : Session} (inside : s.Inside) (inside' : s'.Inside)
    (outlook : s.outlook = s'.outlook) (position : s.position = s'.position)
    (calls : List Call) :
    (s.run calls).1 = (s'.run calls).1 ∧
      (s.run calls).2.outlook = (s'.run calls).2.outlook ∧
      (s.run calls).2.position = (s'.run calls).2.position := by
  rcases run_outlook inside calls with ⟨answers, last, moves⟩
  rcases run_outlook inside' calls with ⟨answers', last', moves'⟩
  have sameAnswers : (s.run calls).1 = (s'.run calls).1 := by rw [answers, answers', outlook]
  have sameOutlook : (s.run calls).2.outlook = (s'.run calls).2.outlook := by
    rw [last, last', outlook]
  refine ⟨sameAnswers, sameOutlook, ?_⟩
  -- As many tokens are passed as are no longer ahead.
  have whole := moves.position_add_length
  have whole' := moves'.position_add_length
  rw [sameOutlook, outlook, position] at whole
  omega

/-- Sessions with the same outlook act alike. -/
theorem sameConduct_of_outlook {s s' : Session} (inside : s.Inside) (inside' : s'.Inside)
    (outlook : s.outlook = s'.outlook) (reported : s.reported = s'.reported)
    (position : s.position = s'.position) (calls : List Call) : SameConduct s s' calls := by
  rcases run_eq_of_outlook inside inside' outlook position calls with ⟨answers, last, place⟩
  constructor
  case answers => exact answers
  case reported => rw [reported_run, reported_run, reported, answers]
  case peek => rw [peek_outlook, peek_outlook, last]
  case position => exact place

/-- A session that starts on what remains, with an end behind it, has the same outlook. -/
theorem outlook_startAfter_rest (sink : List Diagnostic) (s : Session) :
    (startAfter sink (s.rest ++ [s.endToken])).outlook = s.outlook := by
  have whole : (startAfter sink (s.rest ++ [s.endToken])).rest =
      s.outlook.ahead ++ (s.beyond ++ [s.endToken]) := by
    rw [rest_startAfter, ← List.append_assoc, ← rest_eq_append]
  have ends := s.atEnd_beyond
  have shown : s.outlook.closing = s.front s.beyond := rfl
  cases remains : s.beyond with
  | nil =>
    rw [remains] at whole shown
    rw [outlook_eq whole isEnd_eq_false_of_mem_ahead rfl]
    exact congrArg (Outlook.mk s.outlook.ahead) shown.symm
  | cons t rest =>
    rw [remains] at whole shown ends
    rw [outlook_eq whole isEnd_eq_false_of_mem_ahead ends]
    exact congrArg (Outlook.mk s.outlook.ahead) shown.symm

end Session

/-- The tokens up to the first end, with that end. -/
def Grammar.throughEnd : List Token → List Token
  | [] => []
  | t :: rest => if t.isEnd then [t] else t :: throughEnd rest

/-- Tokens up to the first end are those in front of it and, if there is one, the end. -/
theorem Grammar.throughEnd_append {ahead beyond : List Token}
    (inside : ∀ t ∈ ahead, t.isEnd = false) (ends : atEnd beyond = true) :
    throughEnd (ahead ++ beyond) = ahead ++ beyond.take 1 := by
  induction ahead with
  | nil =>
    cases beyond with
    | nil => rfl
    | cons t rest => exact if_pos ends
  | cons t ahead ih =>
    have notEnd := inside t List.mem_cons_self
    have later := ih fun u member => inside u (List.mem_cons_of_mem t member)
    simp [throughEnd, notEnd, later]

namespace Session

/-- What is behind the first end is not in the outlook. -/
theorem outlook_startAfter_throughEnd (sink : List Diagnostic) (ts : List Token) :
    (startAfter sink (Grammar.throughEnd ts)).outlook = (startAfter sink ts).outlook := by
  have whole := (startAfter sink ts).rest_eq_append
  have inside := (startAfter sink ts).isEnd_eq_false_of_mem_ahead
  have ends := (startAfter sink ts).atEnd_beyond
  have cut := Grammar.throughEnd_append inside ends
  rw [← whole, rest_startAfter] at cut
  cases remains : (startAfter sink ts).beyond with
  | nil =>
    rw [remains] at whole cut
    rw [cut, List.take_nil, ← whole, rest_startAfter]
  | cons t rest =>
    rw [remains] at whole cut ends
    have whole' : (startAfter sink (Grammar.throughEnd ts)).rest =
        (startAfter sink ts).outlook.ahead ++ [t] := by
      rw [rest_startAfter, cut]
      rfl
    rw [outlook_eq whole' inside ends, outlook_eq whole inside ends]
    rfl

/-- What is behind the first end makes no difference to any calls, and neither does an end
on the line of the last token that is put behind the tokens. -/
theorem conduct_up_to_end (sink : List Diagnostic) (ts : List Token) (calls : List Call) :
    SameConduct (startAfter sink ts) (startAfter sink (Grammar.throughEnd ts)) calls ∧
      SameConduct (startAfter sink ts)
        (startAfter sink (ts ++ [.endOfInput ((ts.getLast?.map Token.line).getD 1)])) calls := by
  have alike {us : List Token}
      (same : (startAfter sink us).outlook = (startAfter sink ts).outlook) :
      SameConduct (startAfter sink ts) (startAfter sink us) calls :=
    sameConduct_of_outlook (inside_startAfter sink ts) (inside_startAfter sink us) same.symm rfl
      rfl calls
  have closed := outlook_startAfter_rest sink (startAfter sink ts)
  rw [rest_startAfter] at closed
  exact ⟨alike (outlook_startAfter_throughEnd sink ts), alike closed⟩

end Session

end LoxExpr
