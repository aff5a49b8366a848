import LoxExpr.Proofs.Grammar.Outlook

/-!
# Sessions over relabelled tokens

Sessions decide by the kinds of the tokens.  If the lexemes, lines and values of all tokens
are exchanged, every call is answered by the relabelled answer: trees have the other tokens
at their operators and the other values at their leaves, and failures are found at the same
positions for the same reasons.

Main results:

- Theorem `Outlook.answer_relabel`: one call, in terms of what is ahead.
- Theorem `Session.run_relabelled`: calls one after the other, for tokens with an end among
  them.
-/

namespace LoxExpr

/-- A failure at a relabelled token. -/
def ParseError.relabel (f : Relabelling) (failure : ParseError) : ParseError :=
  ⟨failure.reason, f failure.token⟩

/-- An answer as it is given about relabelled tokens, by a session that had some tokens
ahead of it. -/
def Session.Answer.relabel (f : Relabelling) (ahead : List Token) :
    Session.Answer → Session.Answer
  | .parsed (.ok e) => .parsed (.ok (e.relabel f ahead))
  | .parsed (.error failure) => .parsed (.error (failure.relabel f))
  | .synchronized skipped => .synchronized (skipped.map f)
  | .peeked t => .peeked (f t)

/-! ## Relabelled outlooks -/

namespace Outlook

/-- The outlook on relabelled tokens. -/
def relabel (f : Relabelling) (o : Outlook) : Outlook :=
  ⟨o.ahead.map f, f o.closing⟩

/-- The first token of a relabelled outlook is relabelled. -/
theorem peek_relabel (f : Relabelling) (o : Outlook) : (o.relabel f).peek = f o.peek := by
  rcases o with ⟨ahead, closing⟩
  cases ahead <;> rfl

/-- A call about relabelled tokens is answered by the relabelled answer. -/
theorem answer_relabel (f : Relabelling) {o : Outlook} (inside : ∀ t ∈ o.ahead, t.isEnd = false)
    (call : Session.Call) :
    ((o.relabel f).answer call).1 = (o.answer call).1.relabel f o.ahead ∧
      ((o.relabel f).answer call).2 = (o.answer call).2.relabel f := by
  cases call with
  | parse =>
    have same : Grammar.complete Grammar.maxDepth (o.ahead.map f ++ []) = _ :=
      Grammar.complete_map_append f inside rfl
    rw [List.append_nil] at same
    simp only [answer, parse, relabel, same]
    cases Grammar.complete Grammar.maxDepth o.ahead with
    | ok reading => simp [Grammar.Reading.relabel, after, Session.Answer.relabel]
    | error stuck =>
      have shown := peek_relabel f (o.after stuck.rest)
      simp only [relabel, after] at shown
      simp [Grammar.Reading.relabel, after, Session.Answer.relabel, ParseError.relabel, shown]
  | synchronize =>
    have skipped : Grammar.skipped (o.ahead.map f ++ []) = _ :=
      Grammar.skipped_map_append f rfl o.ahead
    have recovered : Grammar.recover (o.ahead.map f ++ []) = _ :=
      Grammar.recover_map_append f rfl o.ahead
    rw [List.append_nil] at skipped recovered
    simp [answer, relabel, after, skipped, recovered, Session.Answer.relabel]
  | peek => exact ⟨congrArg Session.Answer.peeked (peek_relabel f o), rfl⟩

end Outlook

namespace Session

/-! ## Relabelled runs -/

/-- The answers to calls one after the other, as they are given about relabelled tokens. -/
def relabelledAnswers (f : Relabelling) (s : Session) : List Call → List Answer
  | [] => []
  | call :: calls =>
    (s.answer call).1.relabel f (Grammar.beforeEnd s.rest) ::
      (s.answer call).2.relabelledAnswers f calls

/-- A session whose outlook is relabelled gives the relabelled answers, and its outlook
stays relabelled. -/
theorem run_of_outlook_relabel {f : Relabelling} {s s' : Session} (inside : s.Inside)
    (inside' : s'.Inside) (outlook : s'.outlook = s.outlook.relabel f) (calls : List Call) :
    (s'.run calls).1 = s.relabelledAnswers f calls ∧
      (s'.run calls).2.outlook = (s.run calls).2.outlook.relabel f := by
  induction calls generalizing s s' with
  | nil => exact ⟨rfl, outlook⟩
  | cons call calls ih =>
    rcases answer_outlook inside call with ⟨answer, next, _⟩
    rcases answer_outlook inside' call with ⟨answer', next', _⟩
    rcases Outlook.answer_relabel f s.isEnd_eq_false_of_mem_ahead call with ⟨relabelled, later⟩
    rw [outlook, relabelled, ← answer] at answer'
    rw [outlook, later, ← next] at next'
    rcases ih (inside_answer inside call) (inside_answer inside' call) next' with ⟨answers, last⟩
    exact ⟨congrArg₂ List.cons answer' answers, last⟩

/-- The failures of relabelled answers are relabelled. -/
theorem failures_relabelledAnswers (f : Relabelling) (s : Session) (calls : List Call) :
    failures (s.relabelledAnswers f calls) =
      (failures (s.run calls).1).map (ParseError.relabel f) := by
  induction calls generalizing s with
  | nil => rfl
  | cons call calls ih =>
    have first (ahead : List Token) (answer : Answer) :
        (answer.relabel f ahead).failure?.toList =
          answer.failure?.toList.map (ParseError.relabel f) := by
      rcases answer with ⟨result⟩ | _ | _
      · cases result <;> rfl
      · rfl
      · rfl
    simp only [relabelledAnswers, run, failures_cons, ih, first, List.map_append]

/-- A session over relabelled tokens has the relabelled outlook, if there is an end among
the tokens. -/
theorem outlook_start_map (f : Relabelling) {ts : List Token}
    (closes : ∃ t ∈ ts, t.isEnd = true) :
    (start (ts.map f)).outlook = (start ts).outlook.relabel f := by
  have whole := (start ts).rest_eq_append
  have inside := (start ts).isEnd_eq_false_of_mem_ahead
  have ends := (start ts).atEnd_beyond
  have shown : (start ts).outlook.closing = (start ts).front (start ts).beyond := rfl
  cases remains : (start ts).beyond with
  | nil =>
    rw [remains, List.append_nil, rest_start] at whole
    rcases closes with ⟨t, member, isEnd⟩
    have notEnd := inside t (whole ▸ member)
    rw [isEnd] at notEnd
    contradiction
  | cons t rest =>
    rw [remains] at whole ends shown
    rw [rest_start] at whole
    have relabelled : (start (ts.map f)).rest =
        (start ts).outlook.ahead.map f ++ f t :: rest.map f := by
      rw [rest_start, ← List.map_cons, ← List.map_append, ← whole]
    have insideRelabelled : ∀ u ∈ (start ts).outlook.ahead.map f, u.isEnd = false := by
      intro u member
      rcases List.mem_map.1 member with ⟨v, original, rfl⟩
      rw [Relabelling.isEnd_token]
      exact inside v original
    have endsRelabelled : Grammar.atEnd (f t :: rest.map f) = true := (f.isEnd_token t).trans ends
    rw [outlook_eq relabelled insideRelabelled endsRelabelled, Outlook.relabel, shown]
    rfl

/-- How calls are answered about relabelled tokens: by the relabelled answers, with the same
positions, the relabelled tokens in sight and the relabelled failures reported. -/
structure Relabelled (f : Relabelling) (ts : List Token) (calls : List Call) : Prop where
  answers : ((start (ts.map f)).run calls).1 = (start ts).relabelledAnswers f calls
  position : ((start (ts.map f)).run calls).2.position = ((start ts).run calls).2.position
  peek : ((start (ts.map f)).run calls).2.peek = f ((start ts).run calls).2.peek
  reported : ((start (ts.map f)).run calls).2.reported =
    (failures ((start ts).run calls).1).map fun failure => (failure.relabel f).diagnostic

/-- The lexemes, lines and values of tokens have no influence on what is done about them:
whatever calls are made, relabelling the tokens relabels the outcome. -/
theorem run_relabelled (f : Relabelling) {ts : List Token} (closes : ∃ t ∈ ts, t.isEnd = true)
    (calls : List Call) : Relabelled f ts calls := by
  have inside : (start ts).Inside := Nat.zero_le _
  have inside' : (start (ts.map f)).Inside := Nat.zero_le _
  have first := outlook_start_map f closes
  rcases run_of_outlook_relabel inside inside' first calls with ⟨answers, last⟩
  constructor
  case answers => exact answers
  case position =>
    have whole := (run_outlook inside calls).2.2.position_add_length
    have whole' := (run_outlook inside' calls).2.2.position_add_length
    have zero : (start ts).position = 0 := rfl
    have zero' : (start (ts.map f)).position = 0 := rfl
    rw [last, first] at whole'
    simp only [Outlook.relabel, List.length_map] at whole'
    omega
  case peek => rw [peek_outlook, peek_outlook, last, Outlook.peek_relabel]
  case reported =>
    have hreported : (start (ts.map f)).reported = [] := rfl
    rw [reported_run, answers, failures_relabelledAnswers, hreported, List.nil_append, List.map_map]
    rfl

/-- The relabelling that blanks the lexemes, the lines and the values of strings. -/
def blanked : Relabelling where
  token t :=
    match t.symbol with
    | .string _ => ⟨.string "", "", 0⟩
    | symbol => ⟨symbol, "", 0⟩
  kind_token t := by
    rcases t with ⟨symbol, lexeme, line⟩
    cases symbol <;> rfl

/-- Two strings on two lines, with a colon too many behind the first of them. -/
def twoStrings : List Token :=
  [⟨.string "a", "\"a\"", 1⟩, ⟨.mark .colon, ":", 1⟩, ⟨.mark .semicolon, ";", 1⟩,
    ⟨.string "b", "\"b\"", 2⟩, .endOfInput 2]

/-- The colon stops the first parse in both lists, and after a recovery the second parse
comes to the end of both. -/
theorem relabelled_blanked :
    (∃ t ∈ twoStrings, t.isEnd = true) ∧
      ((start (twoStrings.map blanked)).run [.parse, .synchronize, .parse]).2 =
        ⟨twoStrings.map blanked, 4, [⟨0, .atLexeme "", Reason.expectedEnd.message⟩]⟩ ∧
      Relabelled blanked twoStrings [.parse, .synchronize, .parse] := by
  have closes : ∃ t ∈ twoStrings, t.isEnd = true := by decide
  exact ⟨closes, by decide +kernel, run_relabelled blanked closes _⟩

end Session

end LoxExpr
