import LoxExpr.Proofs.Grammar.Failure
import LoxExpr.Proofs.Grammar.Session
import Mathlib.Data.List.ReduceOption

/-!
# Statement boundaries

A statement can begin behind a semicolon, at some of the keywords, and nowhere else in
front of the end.  No expression contains a semicolon or such a keyword, so a parse never
passes a boundary, and recovery stops at the first one.  A session that parses again
behind every failure therefore meets all of them.

Main results:

- Theorem `recover_cases`: recovery moves on to the first boundary behind the token at
  which it starts.
- Theorem `Session.round_advances`: a parse, with recovery if it fails, moves on.
- Theorem `Session.rounds_meet_boundaries`: parsing again behind every failure comes to an
  end, reports failures at later and later places, resumes behind every semicolon, and
  reports every keyword that begins a statement once.
-/

namespace LoxExpr

namespace Grammar

/-! ## Expressions contain no boundary -/

/-- A semicolon occurs in no expression. -/
theorem inExpression_of_semicolon {t : Token} (h : t.mark? = some .semicolon) :
    t.inExpression = false := by
  simp [Token.inExpression, literal?_eq_none_of_mark? h, h, Mark.inExpression]

/-- A keyword that begins a statement occurs in no expression. -/
theorem inExpression_of_startsStatement {t : Token} (h : t.startsStatement = true) :
    t.inExpression = false := by
  rcases t with ⟨symbol, lexeme, line⟩
  cases symbol with
  | keyword k => cases k <;> simp_all [Token.startsStatement, Keyword.startsStatement,
      Token.mark?, Token.inExpression, Token.literal?, Literal.ofSymbol?]
  | _ => simp [Token.startsStatement] at h

/-- What is read consists of tokens that can occur in an expression. -/
theorem Reads.inExpression {b : Nat} {p : Production} {ts used rest : List Token} {e : Expr}
    (read : Reads b (.follow p) ts e rest) (whole : ts = used ++ rest) :
    ∀ t ∈ used, t.inExpression = true := by
  rcases reads_iff_conforms.1 read with ⟨shaped, _, _, consumed, same, spelled⟩
  obtain rfl : used = consumed := List.append_cancel_right (whole.symm.trans same)
  exact shaped.inExpression spelled

/-- A complete expression passes only tokens that can occur in an expression. -/
theorem exists_append_of_complete_ok {limit : Nat} {ts rest : List Token} {e : Expr}
    (returned : complete limit ts = .ok (e, rest)) :
    ∃ used, ts = used ++ rest ∧ (∀ t ∈ used, t.inExpression = true) ∧ atEnd rest = true := by
  rcases complete_eq_ok.1 returned with ⟨read, ends⟩
  rcases read.exists_append with ⟨used, whole⟩
  exact ⟨used, whole, read.inExpression whole, ends⟩

/-- A failure is found behind tokens that can occur in an expression. -/
theorem exists_append_of_complete_error {limit : Nat} {ts : List Token} {s : Stuck}
    (failed : complete limit ts = .error s) :
    ∃ used, ts = used ++ s.rest ∧ ∀ t ∈ used, t.inExpression = true := by
  rcases exists_append_of_complete failed with ⟨used, rfl⟩
  -- What was passed is the beginning of an expression.
  rcases exists_remedy s.reason with ⟨remedy, asked⟩
  rcases exists_reads_of_remedy failed asked with ⟨v, e, read⟩
  have inside := read.inExpression (List.append_nil _).symm
  exact ⟨used, rfl, fun t member => inside t (List.mem_append_left _ member)⟩

/-! ## Recovery stops at the first boundary -/

/-- Whether a statement can begin, or the input ends, behind some tokens and in front of
others. -/
def Boundary (passed rest : List Token) : Prop :=
  atEnd rest = true ∨ (∃ t ∈ passed.getLast?, t.mark? = some .semicolon) ∨
    ∃ t ∈ rest.head?, t.startsStatement = true

/-- Whether tokens behind a first one reach up to a boundary, and over none before it. -/
def FirstBoundary (first : Token) (passed rest : List Token) : Prop :=
  Boundary (first :: passed) rest ∧
    ∀ earlier between, passed = earlier ++ between → between ≠ [] →
      ¬Boundary (first :: earlier) (between ++ rest)

/-- Recovery looks for a boundary in front of each token. -/
theorem boundary_singleton {previous t : Token} {rest : List Token} :
    Boundary [previous] (t :: rest) ↔
      (t.isEnd || previous.mark? == some .semicolon || t.startsStatement) = true := by
  simp [Boundary, atEnd, or_assoc]

/-- Only the last one of the passed tokens matters for a boundary. -/
theorem boundary_cons_cons {s t : Token} {passed rest : List Token} :
    Boundary (s :: t :: passed) rest ↔ Boundary (t :: passed) rest := by
  simp [Boundary, List.getLast?_cons_cons]

/-- Skipping stops at the first boundary. -/
theorem skipStatement_firstBoundary (previous : Token) (ts : List Token) :
    ∃ passed, ts = passed ++ skipStatement previous ts ∧
      FirstBoundary previous passed (skipStatement previous ts) := by
  induction ts generalizing previous with
  | nil =>
    refine ⟨[], rfl, .inl rfl, fun earlier between whole more => ?_⟩
    exact absurd (List.append_eq_nil_iff.1 whole.symm).2 more
  | cons t rest ih =>
    unfold skipStatement
    split
    next stop =>
      refine ⟨[], rfl, boundary_singleton.2 stop, fun earlier between whole more => ?_⟩
      exact absurd (List.append_eq_nil_iff.1 whole.symm).2 more
    next go =>
      rcases ih t with ⟨passed, whole, lands, first⟩
      refine ⟨t :: passed, congrArg (t :: ·) whole, boundary_cons_cons.2 lands, ?_⟩
      intro earlier between divided more
      rcases List.cons_eq_append_iff.1 divided with ⟨rfl, rfl⟩ | ⟨later, rfl, remains⟩
      · exact fun boundary => go (boundary_singleton.1 boundary)
      · exact fun boundary => first later between remains more (boundary_cons_cons.1 boundary)

/-- At the end recovery stays, and elsewhere it passes a token and moves on to the first
boundary. -/
theorem recover_cases (ts : List Token) :
    (atEnd ts = true ∧ recover ts = ts) ∨
      ∃ t passed, t.isEnd = false ∧ ts = t :: passed ++ recover ts ∧
        FirstBoundary t passed (recover ts) := by
  cases ts with
  | nil => exact .inl ⟨rfl, rfl⟩
  | cons t rest =>
    cases ends : t.isEnd with
    | true => exact .inl ⟨ends, if_pos ends⟩
    | false =>
      rcases skipStatement_firstBoundary t rest with ⟨passed, whole, first⟩
      have skips : recover (t :: rest) = skipStatement t rest := if_neg (by simp [ends])
      rw [skips]
      exact .inr ⟨t, passed, ends, congrArg (t :: ·) whole, first⟩

/-- No token that is skipped ends the input. -/
theorem FirstBoundary.isEnd_eq_false {first : Token} {passed rest : List Token}
    (reaches : FirstBoundary first passed rest) : ∀ t ∈ passed, t.isEnd = false := by
  intro t member
  rcases List.append_of_mem member with ⟨earlier, later, whole⟩
  have unmet := reaches.2 earlier (t :: later) whole (List.cons_ne_nil _ _)
  exact Bool.eq_false_iff.2 fun ends => unmet (.inl ends)

/-- Nothing is skipped behind a semicolon. -/
theorem FirstBoundary.eq_nil_of_semicolon {first t : Token} {passed rest front back : List Token}
    (reaches : FirstBoundary first passed rest) (whole : first :: passed = front ++ t :: back)
    (semicolon : t.mark? = some .semicolon) : back = [] := by
  by_contra more
  have ending : ∃ earlier, first :: earlier = front ++ [t] ∧ passed = earlier ++ back := by
    rcases List.cons_eq_append_iff.1 whole with ⟨rfl, same⟩ | ⟨earlier, rfl, rfl⟩
    · rcases List.cons.inj same with ⟨rfl, rfl⟩
      exact ⟨[], rfl, rfl⟩
    · exact ⟨earlier ++ [t], rfl, by simp⟩
  rcases ending with ⟨earlier, last, divided⟩
  apply reaches.2 earlier back divided more
  exact .inr (.inl ⟨t, by simp [last], semicolon⟩)

/-- A keyword that begins a statement is skipped at the first place only. -/
theorem FirstBoundary.eq_nil_of_startsStatement {first t : Token}
    {passed rest front back : List Token} (reaches : FirstBoundary first passed rest)
    (whole : first :: passed = front ++ t :: back) (begins : t.startsStatement = true) :
    front = [] := by
  rcases List.cons_eq_append_iff.1 whole with ⟨rfl, _⟩ | ⟨earlier, _, divided⟩
  · rfl
  · have unmet := reaches.2 earlier (t :: back) divided (List.cons_ne_nil _ _)
    exact absurd (.inr (.inr ⟨t, rfl, begins⟩)) unmet

/-- A token that is not among some tokens in front of a list is in the list. -/
theorem exists_append_of_not_mem {used stuck front back : List Token} {t : Token}
    (absent : t ∉ used) (whole : used ++ stuck = front ++ t :: back) :
    ∃ between, front = used ++ between ∧ stuck = between ++ t :: back := by
  rcases List.append_eq_append_iff.1 whole with ⟨between, rfl, rfl⟩ | ⟨extra, rfl, same⟩
  · exact ⟨between, rfl, rfl⟩
  · cases extra with
    | nil => exact ⟨[], by simp, by simpa using same.symm⟩
    | cons u extra =>
      obtain rfl : t = u := (List.cons.inj same).1
      simp at absent

/-- Recovery from in front of a semicolon resumes behind it, or in front of it. -/
theorem recover_semicolon (front back : List Token) {t : Token}
    (semicolon : t.mark? = some .semicolon) :
    recover (front ++ t :: back) = back ∨
      ∃ skipped between, front = skipped ++ between ∧
        recover (front ++ t :: back) = between ++ t :: back := by
  rcases recover_cases (front ++ t :: back) with ⟨_, stays⟩ | ⟨first, passed, _, whole, reaches⟩
  · exact .inr ⟨[], front, rfl, stays⟩
  · rcases List.append_eq_append_iff.1 whole with
      ⟨beyond, same, lands⟩ | ⟨between, divided, lands⟩
    · cases beyond with
      | nil => exact .inr ⟨front, [], (List.append_nil _).symm, lands.symm⟩
      | cons u beyond =>
        rcases List.cons.inj lands with ⟨rfl, remains⟩
        obtain rfl : beyond = [] := reaches.eq_nil_of_semicolon same semicolon
        exact .inl remains.symm
    · exact .inr ⟨_, between, divided, lands⟩

/-- Recovery from in front of a keyword that begins a statement resumes no later than in
front of it. -/
theorem recover_startsStatement {front : List Token} (apart : front ≠ []) (back : List Token)
    {t : Token} (begins : t.startsStatement = true) :
    ∃ skipped between, front = skipped ++ between ∧
      recover (front ++ t :: back) = between ++ t :: back := by
  rcases recover_cases (front ++ t :: back) with ⟨_, stays⟩ | ⟨first, passed, _, whole, reaches⟩
  · exact ⟨[], front, rfl, stays⟩
  · rcases List.append_eq_append_iff.1 whole with
      ⟨beyond, same, lands⟩ | ⟨between, divided, lands⟩
    · cases beyond with
      | nil => exact ⟨front, [], (List.append_nil _).symm, lands.symm⟩
      | cons u beyond =>
        rcases List.cons.inj lands with ⟨rfl, _⟩
        exact absurd (reaches.eq_nil_of_startsStatement same begins) apart
    · exact ⟨_, between, divided, lands⟩

end Grammar

/-! ## Rounds of a session -/

namespace Session

/-- A parse that failed: what was reported, where the parse stopped, and where recovery
resumed. -/
structure Setback where
  failure : ParseError
  position : Nat
  resumed : Nat

/-- One round: a parse, and recovery if it failed. -/
def round (s : Session) : Option Setback × Session :=
  match s.parse with
  | (.ok _, next) => (none, next)
  | (.error failure, stopped) =>
    (some ⟨failure, stopped.position, stopped.synchronize.position⟩, stopped.synchronize)

/-- A round in which the parse reached the end. -/
structure Finished (s next : Session) (used : List Token) : Prop where
  whole : s.rest = used ++ next.rest
  expression : ∀ t ∈ used, t.inExpression = true
  ends : Grammar.atEnd next.rest = true
  position : next.position = s.position + used.length
  tokens : next.tokens = s.tokens
  reported : next.reported = s.reported

/-- A round in which the parse passed some tokens and failed in front of others. -/
structure Interrupted (s : Session) (setback : Setback) (next : Session)
    (used stuck : List Token) : Prop where
  whole : s.rest = used ++ stuck
  expression : ∀ t ∈ used, t.inExpression = true
  recovered : next.rest = Grammar.recover stuck
  token : setback.failure.token = s.front stuck
  position : setback.position = s.position + used.length
  resumed : setback.resumed = next.position
  moved : ∀ skipped, stuck = skipped ++ next.rest →
    setback.resumed = setback.position + skipped.length
  tokens : next.tokens = s.tokens
  reported : next.reported = s.reported ++ [setback.failure.diagnostic]

/-- Tokens that are not at the end are not empty. -/
theorem ne_nil_of_not_atEnd {ts : List Token} (more : Grammar.atEnd ts = false) : ts ≠ [] := by
  rintro rfl
  contradiction

/-- A round in front of some tokens finishes, or is interrupted. -/
theorem round_cases {s : Session} (more : Grammar.atEnd s.rest = false) :
    (s.round.1 = none ∧ ∃ used, Finished s s.round.2 used) ∨
      ∃ setback used stuck, s.round.1 = some setback ∧
        Interrupted s setback s.round.2 used stuck := by
  have inside := position_le_of_rest_ne_nil (ne_nil_of_not_atEnd more)
  have parsed := s.parse_eq_conclude
  cases result : Grammar.complete Grammar.maxDepth s.rest with
  | ok reading =>
    rcases reading with ⟨e, rest⟩
    rcases Grammar.exists_append_of_complete_ok result with ⟨used, whole, expression, ends⟩
    rw [result] at parsed
    have next : s.round = (none, s.moveTo rest) := by
      unfold round
      rw [parsed]
      rfl
    have remains := rest_moveTo whole
    have position := position_moveTo whole inside
    rw [next]
    exact .inl ⟨rfl, used, by rwa [remains], expression, by rwa [remains], position, rfl, rfl⟩
  | error stuck =>
    rcases Grammar.exists_append_of_complete_error result with ⟨used, whole, expression⟩
    rw [result] at parsed
    have next : s.round =
        (some ⟨s.failureAt stuck, (s.stoppedAt stuck).position,
          (s.stoppedAt stuck).synchronize.position⟩, (s.stoppedAt stuck).synchronize) := by
      unfold round
      rw [parsed]
      rfl
    have remains : (s.stoppedAt stuck).rest = stuck.rest := rest_moveTo whole
    have position : (s.stoppedAt stuck).position = s.position + used.length :=
      position_moveTo whole inside
    have within : (s.stoppedAt stuck).position ≤ (s.stoppedAt stuck).tokens.length :=
      Nat.sub_le _ _
    rcases Grammar.recover_suffix (s.stoppedAt stuck).rest with ⟨skipped, divided⟩
    have recovered : (s.stoppedAt stuck).synchronize.rest = Grammar.recover stuck.rest := by
      rw [← remains]
      exact rest_moveTo divided.symm
    have moved : ∀ skipped, stuck.rest = skipped ++ (s.stoppedAt stuck).synchronize.rest →
        (s.stoppedAt stuck).synchronize.position =
          (s.stoppedAt stuck).position + skipped.length := by
      intro passed parts
      rw [recovered, ← remains] at parts
      exact position_moveTo parts within
    rw [next]
    exact .inr ⟨_, used, stuck.rest, rfl, whole, expression, recovered, rfl, position, rfl, moved,
      rfl, rfl⟩

/-- A round in front of some tokens passes at least one of them, and never the end. -/
theorem round_advances {s : Session} (more : Grammar.atEnd s.rest = false) :
    ∃ gone, gone ≠ [] ∧ s.rest = gone ++ s.round.2.rest ∧ (∀ t ∈ gone, t.isEnd = false) ∧
      s.round.2.position = s.position + gone.length := by
  rcases round_cases more with ⟨_, used, finished⟩ | ⟨setback, used, stuck, _, interrupted⟩
  · refine ⟨used, ?_, finished.whole, ?_, finished.position⟩
    · rintro rfl
      have ends := finished.ends
      rw [← List.nil_append (rest _), ← finished.whole, more] at ends
      contradiction
    · exact fun t member => Grammar.isEnd_eq_false_of_inExpression (finished.expression t member)
  · have whole := interrupted.whole
    have recovered := interrupted.recovered
    have inside : ∀ t ∈ used, t.isEnd = false := fun t member =>
      Grammar.isEnd_eq_false_of_inExpression (interrupted.expression t member)
    rcases Grammar.recover_cases stuck with ⟨ends, stays⟩ | ⟨t, passed, notEnd, parts, reaches⟩
    · refine ⟨used, ?_, ?_, inside, ?_⟩
      · rintro rfl
        rw [whole, List.nil_append, ends] at more
        contradiction
      · rw [recovered, stays, whole]
      · have moved := interrupted.moved [] (by rw [recovered, stays, List.nil_append])
        rw [← interrupted.resumed, moved, interrupted.position]
        rfl
    · refine ⟨used ++ t :: passed, by simp, ?_, ?_, ?_⟩
      · rw [recovered, List.append_assoc, ← parts, whole]
      · intro u member
        rcases List.mem_append.1 member with before | skipped
        · exact inside u before
        · rcases List.mem_cons.1 skipped with rfl | later
          · exact notEnd
          · exact reaches.isEnd_eq_false u later
      · have moved := interrupted.moved (t :: passed) (by rw [recovered, ← parts])
        rw [← interrupted.resumed, moved, interrupted.position, List.length_append, Nat.add_assoc]

/-- A round leaves fewer tokens. -/
theorem length_rest_round_lt {s : Session} (more : ¬s.peek.isEnd = true) :
    s.round.2.rest.length < s.rest.length := by
  rw [isEnd_peek, Bool.not_eq_true] at more
  rcases round_advances more with ⟨gone, nonempty, whole, _⟩
  have := List.length_pos_iff.2 nonempty
  rw [whole, List.length_append]
  omega

/-- Parses again and again, with recovery behind every failure, until the session looks at
the end. -/
def rounds (s : Session) : List (Option Setback) × Session :=
  if s.peek.isEnd then ([], s)
  else
    let later := s.round.2.rounds
    (s.round.1 :: later.1, later.2)
termination_by s.rest.length
decreasing_by exact length_rest_round_lt ‹_›

/-! ## Runs of rounds -/

/-- At the end there are no rounds. -/
theorem rounds_of_atEnd {s : Session} (ends : Grammar.atEnd s.rest = true) :
    s.rounds = ([], s) := by
  rw [rounds, isEnd_peek, ends]
  rfl

/-- In front of some tokens there is a round, and then those of the session behind it. -/
theorem rounds_of_not_atEnd {s : Session} (more : Grammar.atEnd s.rest = false) :
    s.rounds = (s.round.1 :: s.round.2.rounds.1, s.round.2.rounds.2) := by
  rw [rounds, isEnd_peek, more]
  rfl

/-- What holds of a session at the end, and of a session in front of some tokens if it
holds behind the next round, holds of every session. -/
theorem rounds_induction {motive : Session → Prop}
    (atEnd : ∀ s, Grammar.atEnd s.rest = true → motive s)
    (step : ∀ s, Grammar.atEnd s.rest = false → motive s.round.2 → motive s) (s : Session) :
    motive s := by
  induction s using rounds.induct with
  | case1 s ends => exact atEnd s (by rwa [← isEnd_peek])
  | case2 s more ih => exact step s (by rwa [← isEnd_peek, ← Bool.not_eq_true]) ih

/-- Rounds go on up to the end. -/
theorem atEnd_rounds (s : Session) : Grammar.atEnd s.rounds.2.rest = true := by
  induction s using rounds_induction with
  | atEnd s ends => rwa [rounds_of_atEnd ends]
  | step s more ih => rwa [rounds_of_not_atEnd more]

/-- There are at most as many rounds as tokens in front of the end. -/
theorem length_rounds_le (s : Session) :
    s.rounds.1.length ≤ (Grammar.beforeEnd s.rest).length := by
  induction s using rounds_induction with
  | atEnd s ends =>
    rw [rounds_of_atEnd ends]
    exact Nat.zero_le _
  | step s more ih =>
    rcases round_advances more with ⟨gone, nonempty, whole, inside, _⟩
    have positive := List.length_pos_iff.2 nonempty
    have passed : ∀ t ∈ gone, (!t.isEnd) = true := by simpa using inside
    have counted : (Grammar.beforeEnd s.rest).length =
        gone.length + (Grammar.beforeEnd s.round.2.rest).length := by
      rw [whole, Grammar.beforeEnd, List.takeWhile_append_of_pos passed, List.length_append]
      rfl
    rw [rounds_of_not_atEnd more, List.length_cons]
    omega

/-- Rounds report their failures, in order. -/
theorem reported_rounds (s : Session) :
    s.rounds.2.reported =
      s.reported ++ s.rounds.1.reduceOption.map fun setback => setback.failure.diagnostic := by
  induction s using rounds_induction with
  | atEnd s ends =>
    rw [rounds_of_atEnd ends]
    exact (List.append_nil _).symm
  | step s more ih =>
    rw [rounds_of_not_atEnd more]
    simp only [ih]
    rcases round_cases more with ⟨hnone, _, finished⟩ | ⟨setback, _, _, failed, interrupted⟩
    · rw [hnone, finished.reported, List.reduceOption_cons_of_none]
    · rw [failed, interrupted.reported, List.reduceOption_cons_of_some]
      simp

/-- A setback that is not the last one resumes behind the place where the parse stopped. -/
theorem Interrupted.position_lt {s next : Session} {setback : Setback} {used stuck : List Token}
    (interrupted : Interrupted s setback next used stuck)
    (more : Grammar.atEnd next.rest = false) : setback.position < next.position := by
  have recovered := interrupted.recovered
  rcases Grammar.recover_cases stuck with ⟨ends, stays⟩ | ⟨t, passed, _, parts, _⟩
  · rw [recovered, stays, ends] at more
    contradiction
  · have moved := interrupted.moved (t :: passed) (by rw [recovered, ← parts])
    rw [← interrupted.resumed, moved, List.length_cons]
    omega

/-- The failures are found at later and later places, from the position of the session
on. -/
theorem pairwise_rounds (s : Session) :
    (∀ setback ∈ s.rounds.1.reduceOption, s.position ≤ setback.position) ∧
      s.rounds.1.reduceOption.Pairwise fun a b => a.position < b.position := by
  induction s using rounds_induction with
  | atEnd s ends =>
    rw [rounds_of_atEnd ends]
    exact ⟨by simp, .nil⟩
  | step s more ih =>
    rcases ih with ⟨least, increasing⟩
    rcases round_advances more with ⟨gone, _, _, _, moved⟩
    have behind : ∀ setback ∈ s.round.2.rounds.1.reduceOption, s.position ≤ setback.position := by
      intro setback member
      have := least setback member
      omega
    rw [rounds_of_not_atEnd more]
    rcases round_cases more with ⟨hnone, _⟩ | ⟨setback, used, stuck, failed, interrupted⟩
    · rw [hnone, List.reduceOption_cons_of_none]
      exact ⟨behind, increasing⟩
    · rw [failed, List.reduceOption_cons_of_some]
      have here : s.position ≤ setback.position := by
        rw [interrupted.position]
        exact Nat.le_add_right _ _
      refine ⟨List.forall_mem_cons.2 ⟨here, behind⟩, List.pairwise_cons.2 ⟨?_, increasing⟩⟩
      intro later member
      cases ends : Grammar.atEnd s.round.2.rest with
      | true =>
        rw [rounds_of_atEnd ends] at member
        simp at member
      | false => exact Nat.lt_of_lt_of_le (interrupted.position_lt ends) (least later member)

/-- A token in front of which there is no end is not behind the end. -/
theorem not_atEnd_append_cons {front back : List Token} {t : Token}
    (inside : ∀ u ∈ front ++ [t], u.isEnd = false) :
    Grammar.atEnd (front ++ t :: back) = false := by
  cases front with
  | nil => exact inside t (List.mem_singleton.2 rfl)
  | cons u front => exact inside u List.mem_cons_self

/-- A round in front of a token that occurs in no expression is interrupted, no later than
in front of that token. -/
theorem round_before {s : Session} {front back : List Token} {t : Token}
    (whole : s.rest = front ++ t :: back) (inside : ∀ u ∈ front ++ [t], u.isEnd = false)
    (foreign : t.inExpression = false) :
    ∃ setback used between, s.round.1 = some setback ∧ front = used ++ between ∧
      Interrupted s setback s.round.2 used (between ++ t :: back) := by
  have more : Grammar.atEnd s.rest = false := by
    rw [whole]
    exact not_atEnd_append_cons inside
  have absent : ∀ used : List Token, (∀ u ∈ used, u.inExpression = true) → t ∉ used := by
    intro used expression member
    rw [expression t member] at foreign
    contradiction
  rcases round_cases more with ⟨_, used, finished⟩ | ⟨setback, used, stuck, failed, interrupted⟩
  · have same := finished.whole.symm.trans whole
    obtain ⟨between, rfl, remains⟩ :=
      Grammar.exists_append_of_not_mem (absent used finished.expression) same
    have ends := finished.ends
    rw [remains, not_atEnd_append_cons fun u member => inside u (by simp_all)] at ends
    contradiction
  · have same := interrupted.whole.symm.trans whole
    obtain ⟨between, rfl, rfl⟩ :=
      Grammar.exists_append_of_not_mem (absent used interrupted.expression) same
    exact ⟨setback, used, between, failed, rfl, interrupted⟩

/-- Some recovery resumes right behind every semicolon. -/
theorem exists_resumed {s : Session} {front back : List Token} {t : Token}
    (whole : s.rest = front ++ t :: back) (inside : ∀ u ∈ front ++ [t], u.isEnd = false)
    (semicolon : t.mark? = some .semicolon) :
    ∃ setback ∈ s.rounds.1.reduceOption, setback.resumed = s.position + front.length + 1 := by
  induction s using rounds_induction generalizing front with
  | atEnd s ends =>
    rw [whole, not_atEnd_append_cons inside] at ends
    contradiction
  | step s more ih =>
    have foreign := Grammar.inExpression_of_semicolon semicolon
    rcases round_before whole inside foreign with ⟨setback, used, between, failed, rfl, interrupted⟩
    rw [rounds_of_not_atEnd more, failed, List.reduceOption_cons_of_some]
    have recovered := interrupted.recovered
    rcases Grammar.recover_semicolon between back semicolon with
      behind | ⟨skipped, rest, rfl, before⟩
    · rw [behind] at recovered
      have moved := interrupted.moved (between ++ [t]) (by simp [recovered])
      refine ⟨setback, List.mem_cons_self, ?_⟩
      simp only [moved, interrupted.position, List.length_append, List.length_singleton]
      omega
    · rw [before] at recovered
      have moved := interrupted.moved skipped (by simp [recovered])
      rcases ih recovered fun u member => inside u (by simp_all) with ⟨later, member, resumed⟩
      refine ⟨later, List.mem_cons_of_mem _ member, ?_⟩
      rw [resumed, ← interrupted.resumed, moved, interrupted.position]
      simp only [List.length_append]
      omega

/-- Some failure is found at every keyword that begins a statement. -/
theorem exists_position {s : Session} {front back : List Token} {t : Token}
    (whole : s.rest = front ++ t :: back) (inside : ∀ u ∈ front ++ [t], u.isEnd = false)
    (begins : t.startsStatement = true) :
    ∃ setback ∈ s.rounds.1.reduceOption,
      setback.position = s.position + front.length ∧ setback.failure.token = t := by
  induction s using rounds_induction generalizing front with
  | atEnd s ends =>
    rw [whole, not_atEnd_append_cons inside] at ends
    contradiction
  | step s more ih =>
    have foreign := Grammar.inExpression_of_startsStatement begins
    rcases round_before whole inside foreign with ⟨setback, used, between, failed, rfl, interrupted⟩
    rw [rounds_of_not_atEnd more, failed, List.reduceOption_cons_of_some]
    by_cases here : between = []
    · subst here
      refine ⟨setback, List.mem_cons_self, ?_, interrupted.token⟩
      rw [interrupted.position, List.append_nil]
    · rcases Grammar.recover_startsStatement here back begins with ⟨skipped, rest, rfl, before⟩
      have recovered := interrupted.recovered
      rw [before] at recovered
      have moved := interrupted.moved skipped (by simp [recovered])
      rcases ih recovered fun u member => inside u (by simp_all) with ⟨later, member, place, token⟩
      refine ⟨later, List.mem_cons_of_mem _ member, ?_, token⟩
      rw [place, ← interrupted.resumed, moved, interrupted.position]
      simp only [List.length_append]
      omega

/-! ## All boundaries are met -/

/-- Every failure is found at the token at its place. -/
theorem token_rounds (s : Session) :
    ∀ setback ∈ s.rounds.1.reduceOption,
      setback.failure.token = s.tokens[setback.position]?.getD s.endToken := by
  induction s using rounds_induction with
  | atEnd s ends =>
    simp [rounds_of_atEnd ends]
  | step s more ih =>
    rw [rounds_of_not_atEnd more]
    rcases round_cases more with
      ⟨hnone, used, finished⟩ | ⟨setback, used, stuck, failed, interrupted⟩
    · have ending : s.round.2.endToken = s.endToken := by rw [endToken, finished.tokens, endToken]
      rw [finished.tokens, ending] at ih
      rwa [hnone, List.reduceOption_cons_of_none]
    · have ending : s.round.2.endToken = s.endToken := by
        rw [endToken, interrupted.tokens, endToken]
      rw [interrupted.tokens, ending] at ih
      rw [failed, List.reduceOption_cons_of_some]
      refine List.forall_mem_cons.2 ⟨?_, ih⟩
      have shown : s.tokens[setback.position]? = stuck.head? := by
        have remaining : s.tokens.drop s.position = used ++ stuck := interrupted.whole
        rw [interrupted.position, ← List.getElem?_drop, remaining,
          List.getElem?_append_right (Nat.le_refl _), Nat.sub_self, List.head?_eq_getElem?]
      rw [interrupted.token, shown]
      rfl

/-- A token in front of the end divides the tokens. -/
theorem exists_append_of_getElem?_beforeEnd {ts : List Token} {j : Nat} {t : Token}
    (found : (Grammar.beforeEnd ts)[j]? = some t) :
    ∃ front back, ts = front ++ t :: back ∧ front.length = j ∧
      ∀ u ∈ front ++ [t], u.isEnd = false := by
  rcases Grammar.exists_eq_beforeEnd_append ts with ⟨rest, whole, _⟩
  rcases List.getElem?_eq_some_iff.1 found with ⟨inside, same⟩
  have divided : Grammar.beforeEnd ts =
      (Grammar.beforeEnd ts).take j ++ t :: (Grammar.beforeEnd ts).drop (j + 1) := by
    rw [← same, ← List.drop_eq_getElem_cons, List.take_append_drop]
  refine ⟨(Grammar.beforeEnd ts).take j, (Grammar.beforeEnd ts).drop (j + 1) ++ rest, ?_, ?_, ?_⟩
  · rw [← List.cons_append, ← List.append_assoc, ← divided]
    exact whole
  · exact List.length_take_of_le (Nat.le_of_lt inside)
  · intro u member
    have listed : u ∈ Grammar.beforeEnd ts := by
      rw [divided]
      rcases List.mem_append.1 member with before | here
      · exact List.mem_append_left _ before
      · rw [List.mem_singleton.1 here]
        exact List.mem_append_right _ List.mem_cons_self
    exact Grammar.isEnd_eq_false_of_mem_beforeEnd listed

/-- Among setbacks at later and later places, a place occurs once. -/
theorem filter_position_eq {setbacks : List Setback} {setback : Setback}
    (increasing : setbacks.Pairwise fun a b => a.position < b.position)
    (member : setback ∈ setbacks) :
    setbacks.filter (fun other => other.position = setback.position) = [setback] := by
  rcases List.append_of_mem member with ⟨earlier, later, rfl⟩
  rcases List.pairwise_append.1 increasing with ⟨_, second, across⟩
  have before : ∀ other ∈ earlier, ¬other.position = setback.position := fun other inside =>
    Nat.ne_of_lt (across other inside setback List.mem_cons_self)
  have behind : ∀ other ∈ later, ¬other.position = setback.position := fun other inside =>
    Nat.ne_of_gt ((List.pairwise_cons.1 second).1 other inside)
  rw [List.filter_append, List.filter_eq_nil_iff.2 (by simpa using before),
    List.filter_cons_of_pos (by simp), List.filter_eq_nil_iff.2 (by simpa using behind)]
  rfl

/-- Whether rounds over some tokens meet all the boundaries in front of the end. -/
structure MeetsBoundaries (ts : List Token) (rounds : List (Option Setback)) (last : Session) :
    Prop where
  ends : last.peek.isEnd = true
  length_le : rounds.length ≤ (Grammar.beforeEnd ts).length
  reported : last.reported =
    rounds.reduceOption.map fun setback => setback.failure.diagnostic
  token : ∀ setback ∈ rounds.reduceOption,
    setback.failure.token = ts[setback.position]?.getD (start ts).endToken
  increasing : (rounds.reduceOption.map Setback.position).Pairwise (· < ·)
  semicolon : ∀ j t, (Grammar.beforeEnd ts)[j]? = some t → t.mark? = some .semicolon →
    ∃ setback ∈ rounds.reduceOption, setback.resumed = j + 1
  statement : ∀ j t, (Grammar.beforeEnd ts)[j]? = some t → t.startsStatement = true →
    ∃ setback, rounds.reduceOption.filter (fun other => other.position = j) = [setback] ∧
      setback.failure.token = t

/-- Parsing again behind every failure comes to an end after at most as many rounds as
there are tokens in front of the end.  It reports failures at later and later places,
resumes right behind every semicolon, and reports every keyword that begins a statement
exactly once. -/
theorem rounds_meet_boundaries (ts : List Token) :
    MeetsBoundaries ts (start ts).rounds.1 (start ts).rounds.2 := by
  rcases (start ts).pairwise_rounds with ⟨_, increasing⟩
  constructor
  case ends =>
    rw [isEnd_peek]
    exact (start ts).atEnd_rounds
  case length_le =>
    have bound := (start ts).length_rounds_le
    rwa [rest_start] at bound
  case reported => exact (start ts).reported_rounds
  case token => exact (start ts).token_rounds
  case increasing => exact List.pairwise_map.2 increasing
  case semicolon =>
    intro j t found semicolon
    rcases exists_append_of_getElem?_beforeEnd found with ⟨front, back, whole, rfl, inside⟩
    rw [← rest_start ts] at whole
    rcases exists_resumed whole inside semicolon with ⟨setback, member, resumed⟩
    refine ⟨setback, member, ?_⟩
    simpa [start] using resumed
  case statement =>
    intro j t found begins
    rcases exists_append_of_getElem?_beforeEnd found with ⟨front, back, whole, rfl, inside⟩
    rw [← rest_start ts] at whole
    rcases exists_position whole inside begins with ⟨setback, member, place, token⟩
    have here : setback.position = front.length := by simpa [start] using place
    refine ⟨setback, ?_, token⟩
    rw [← here]
    exact filter_position_eq increasing member

end Session

end LoxExpr
