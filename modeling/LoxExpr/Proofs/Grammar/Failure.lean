import LoxExpr.Proofs.Grammar.Kind

/-!
# Failures are found at the earliest token

A descent that gets stuck has not gone too far: what it passed is the beginning of an
expression, and the reason of the failure names what can come next.  It has not
stopped too early either, since nothing behind the token at which it stopped has an
influence on the failure.

Main results:

- Theorem `Fails.repairable`: what was passed, with what the failure asks for behind it,
  can be completed within the same budget.
- Theorem `Fails.persists`: a failure at a token does not depend on what is behind the
  token.
- Theorem `parse_failure_truthful`: the tokens in front of the reported one can be
  completed to an accepted list, those up to it cannot, and the reason is truthful.
-/

namespace LoxExpr

namespace Grammar

/-! ## A different continuation -/

/-- Whether tokens can stand in the place of other tokens behind a complete tree. -/
def CanReplace (ts us : List Token) : Prop :=
  Stops .expression us ∨ us.head? = ts.head?

/-- A tree that ends in front of some tokens ends in front of what can replace them. -/
theorem StopsAt.replace {p : Production} {e : Expr} {ts us : List Token}
    (stops : StopsAt p e ts) (other : CanReplace ts us) : StopsAt p e us := by
  rcases other with ends | same
  · exact ends.anywhere p e
  · unfold StopsAt Stops at stops ⊢
    rw [same]
    exact stops

/-- A reading stays the same when the rest is replaced. -/
theorem Reads.replace {b : Nat} {p : Production} {used ts us : List Token} {e : Expr}
    (read : Reads b (.follow p) (used ++ ts) e ts) (other : CanReplace ts us) :
    Reads b (.follow p) (used ++ us) e us := by
  rcases reads_iff_conforms.1 read with ⟨shaped, nest, stops, consumed, whole, spelled⟩
  obtain rfl : used = consumed := List.append_cancel_right whole
  exact reads_iff_conforms.2 ⟨shaped, nest, stops.replace other, used, rfl, spelled⟩

/-- Two lists that begin with the same tokens can replace each other. -/
theorem canReplace_append_cons (used : List Token) (t : Token) (ts us : List Token) :
    CanReplace (used ++ t :: ts) (used ++ t :: us) :=
  .inr (by cases used <;> rfl)

/-! ## What a failure asks for -/

/-- The tokens that a failure asks for. -/
def Remedy : Reason → List Token → Prop
  | .expectedExpression, ts => ∃ t, ts = [t] ∧ t.literal?.isSome = true
  | .expectedRightParen, ts => ∃ t, ts = [t] ∧ t.mark? = some .rightParen
  | .expectedColon, ts => ∃ t, ts = [t] ∧ t.mark? = some .colon
  | .expectedEnd, ts => ts = []
  | .tooDeep, ts => ts = []

/-- A literal to fill a gap with. -/
def nilToken : Token :=
  ⟨.keyword .kwNil, "nil", 1⟩

/-- A colon to go on with. -/
def colonToken : Token :=
  ⟨.mark .colon, ":", 1⟩

/-- A parenthesis to close a grouping with. -/
def rightParenToken : Token :=
  ⟨.mark .rightParen, ")", 1⟩

/-- Every failure asks for something. -/
theorem exists_remedy (reason : Reason) : ∃ ts, Remedy reason ts := by
  cases reason with
  | expectedExpression => exact ⟨[nilToken], nilToken, rfl, rfl⟩
  | expectedRightParen => exact ⟨[rightParenToken], rightParenToken, rfl, rfl⟩
  | expectedColon => exact ⟨[colonToken], colonToken, rfl, rfl⟩
  | expectedEnd | tooDeep => exact ⟨[], rfl⟩

/-- A literal is read by every production, if nothing goes on behind it. -/
theorem reads_literal {t : Token} {v : Literal} (value : t.literal? = some v) (b : Nat)
    (p : Production) {rest : List Token} (ends : Stops .expression rest) :
    Reads b (.follow p) (t :: rest) (.literal v) rest := by
  have shaped := shaped_literal (isKeyword_of_literal? value) (form p)
  have spelled := Expr.spelledBy_literal.2 ⟨t, rfl, value⟩
  exact reads_iff_conforms.2 ⟨shaped, Nat.zero_le b, ends.anywhere p _, [t], rfl, spelled⟩

/-- The filling literal is read by every production, if nothing goes on behind it. -/
theorem reads_nilToken (b : Nat) (p : Production) {rest : List Token}
    (ends : Stops .expression rest) :
    Reads b (.follow p) (nilToken :: rest) (.literal .nil) rest :=
  reads_literal rfl b p ends

/-- What a primary expression is read from does not start with an operator. -/
theorem Reads.unary_of_primary {b : Nat} {ts rest : List Token} {e : Expr}
    (read : Reads b (.follow .primary) ts e rest) : Reads b (.follow .unary) ts e rest := by
  rcases reads_iff_conforms.1 read with ⟨shaped, _, _, used, rfl, spelled⟩
  rcases Shaped.exists_cons shaped spelled with ⟨t, us, rfl, notOperator⟩
  exact .primary notOperator read

/-! ## What was passed can be completed -/

/-- Whether a task that was given some tokens can be completed from a start, in front of
anything that goes on with nothing.  Behind the first part of a chain the completed
tokens must also be able to replace the given ones, so that this part stays complete. -/
def Completes (b : Nat) (task : Task) (ts start : List Token) : Prop :=
  ∃ tail, ∀ rest, Stops .expression rest →
    (∀ level left, task = .extend level left → CanReplace ts (start ++ (tail ++ rest))) ∧
      ∃ e, Reads b task (start ++ (tail ++ rest)) e rest

/-- Whether what a task passed before it failed can be completed behind anything that
the failure asks for. -/
def Repairable (b : Nat) (task : Task) (ts : List Token) (s : Stuck) : Prop :=
  ∃ used, ts = used ++ s.rest ∧
    ∀ remedy, Remedy s.reason remedy → Completes b task ts (used ++ remedy)

/-- A failure inside of a construct is repaired by completing the part that failed and
closing the construct. -/
theorem Repairable.context {b b' : Nat} {p p' : Production} {ts : List Token} {s : Stuck}
    (inner : Repairable b (.follow p) ts s) (before after : List Token)
    (ends : ∀ rest, Stops .expression rest → Stops .expression (after ++ rest))
    (close : ∀ {us e rest}, Stops .expression rest → Reads b (.follow p) us e (after ++ rest) →
      ∃ e', Reads b' (.follow p') (before ++ us) e' rest) :
    Repairable b' (.follow p') (before ++ ts) s := by
  rcases inner with ⟨used, rfl, complete⟩
  refine ⟨before ++ used, (List.append_assoc _ _ _).symm, fun remedy asked => ?_⟩
  rcases complete remedy asked with ⟨tail, finish⟩
  refine ⟨tail ++ after, fun rest stops => ⟨nofun, ?_⟩⟩
  rcases finish (after ++ rest) (ends rest stops) with ⟨_, e, read⟩
  rcases close stops read with ⟨e', whole⟩
  exact ⟨e', by simpa using whole⟩

/-- A failure of a construct itself is repaired by what it asks for. -/
theorem repairable_of_remedy {b : Nat} {p : Production} {reason : Reason}
    (used rest : List Token)
    (complete : ∀ remedy, Remedy reason remedy → ∃ tail, ∀ rest, Stops .expression rest →
      ∃ e, Reads b (.follow p) (used ++ (remedy ++ (tail ++ rest))) e rest) :
    Repairable b (.follow p) (used ++ rest) ⟨reason, rest⟩ := by
  refine ⟨used, rfl, fun remedy asked => ?_⟩
  rcases complete remedy asked with ⟨tail, finish⟩
  refine ⟨tail, fun rest stops => ⟨nofun, ?_⟩⟩
  rcases finish rest stops with ⟨e, read⟩
  exact ⟨e, by simpa using read⟩

/-- A condition can be followed by other branches. -/
theorem Reads.conditional_replace {b : Nat} {passed ts afterQuestion afterColon rest : List Token}
    {c p n : Expr} {q k : Token}
    (condition : Reads (b + 1) (.follow (.chain .equality)) (passed ++ q :: ts) c (q :: ts))
    (question : q.mark? = some .questionMark)
    (positive : Reads b (.follow .expression) afterQuestion p (k :: afterColon))
    (colon : k.mark? = some .colon)
    (negative : Reads b (.follow .expression) afterColon n rest) :
    Reads (b + 1) (.follow .conditional) (passed ++ q :: afterQuestion) (.conditional c p n)
      rest :=
  .conditional (condition.replace (canReplace_append_cons [] q ts afterQuestion)) question
    positive colon negative

/-- A colon goes on with no expression. -/
theorem stops_colon {k : Token} (colon : k.mark? = some .colon) (rest : List Token) :
    Stops .expression (k :: rest) :=
  stops_of_mark? colon (by decide) rfl _ _

/-- A closing parenthesis goes on with no expression. -/
theorem stops_rightParen {r : Token} (closes : r.mark? = some .rightParen) (rest : List Token) :
    Stops .expression (r :: rest) :=
  stops_of_mark? closes (by decide) rfl _ _

/-- Every failure is repairable. -/
theorem Fails.repairable {b : Nat} {task : Task} {ts : List Token} {s : Stuck}
    (failed : Fails b task ts s) : Repairable b task ts s := by
  -- Each case closes the construct around the part that failed, in the cheapest way.
  induction failed with
  | expression _ ih =>
    exact ih.context [] [] (fun _ ends => ends) fun _ read => ⟨_, .expression read⟩
  | @operand b level ts s _ ih =>
    apply ih.context [] [] (fun _ ends => ends)
    intro us e rest ends read
    have stops : Stops (.chain level) rest := ends.mono (Production.rank_le _)
    exact ⟨e, .chain read (.finish stops.noOperator)⟩
  | @chain b level ts left middle s first _ ih =>
    rcases first.exists_append with ⟨passed, rfl⟩
    rcases ih with ⟨used, rfl, complete⟩
    refine ⟨passed ++ used, (List.append_assoc _ _ _).symm, fun remedy asked => ?_⟩
    rcases complete remedy asked with ⟨tail, finish⟩
    refine ⟨tail, fun rest ends => ⟨nofun, ?_⟩⟩
    -- The first operand is read again, since what is behind it now can replace what was.
    rcases finish rest ends with ⟨other, e, read⟩
    have firstAgain := first.replace (other level left rfl)
    exact ⟨e, by simpa using Reads.chain firstAgain read⟩
  | condition _ ih =>
    apply ih.context [] [] (fun _ ends => ends)
    intro us e rest ends read
    have stops : Stops .conditional rest := ends.mono (by decide)
    exact ⟨e, .condition read stops.noQuestion⟩
  | @question ts c q afterQuestion first _ =>
    rcases first.exists_append with ⟨passed, rfl⟩
    apply repairable_of_remedy
    rintro _ rfl
    refine ⟨[], fun rest ends => ⟨c, ?_⟩⟩
    have stops : Stops .conditional rest := ends.mono (by decide)
    exact .condition (first.replace (.inl ends)) stops.noQuestion
  | @positive b ts c q afterQuestion s first question _ ih =>
    rcases first.exists_append with ⟨passed, rfl⟩
    have closed : Repairable (b + 1) (.follow .conditional)
        ((passed ++ [q]) ++ afterQuestion) s := by
      apply ih.context (passed ++ [q]) [colonToken, nilToken] (fun _ _ => stops_colon rfl _)
      intro us p rest ends readPositive
      have readNegative := reads_nilToken b .expression ends
      have whole := first.conditional_replace question readPositive rfl readNegative
      exact ⟨_, by simpa using whole⟩
    simpa using closed
  | @colon b ts c q afterQuestion p rest first question second _ =>
    rcases first.exists_append with ⟨passed, rfl⟩
    rcases second.exists_append with ⟨used, rfl⟩
    have closed : Repairable (b + 1) (.follow .conditional) ((passed ++ q :: used) ++ rest)
        ⟨.expectedColon, rest⟩ := by
      apply repairable_of_remedy
      intro remedy asked
      rcases asked with ⟨k, rfl, colon⟩
      refine ⟨[nilToken], fun rest ends => ?_⟩
      have readPositive := second.replace (.inl (stops_colon colon (nilToken :: rest)))
      have readNegative := reads_nilToken b .expression ends
      have whole := first.conditional_replace question readPositive colon readNegative
      exact ⟨_, by simpa using whole⟩
    simpa using closed
  | @negative b ts c q afterQuestion p k afterColon s first question second colon _ ih =>
    rcases first.exists_append with ⟨passed, rfl⟩
    rcases second.exists_append with ⟨used, rfl⟩
    have closed : Repairable (b + 1) (.follow .conditional)
        ((passed ++ q :: (used ++ [k])) ++ afterColon) s := by
      apply ih.context (passed ++ q :: (used ++ [k])) [] (fun _ ends => ends)
      intro us n rest _ readNegative
      have readPositive := second.replace (canReplace_append_cons [] k _ us)
      have whole := first.conditional_replace question readPositive colon readNegative
      exact ⟨_, by simpa using whole⟩
    simpa using closed
  | @operator t ts _ =>
    apply repairable_of_remedy []
    rintro _ rfl
    exact ⟨[nilToken], fun rest ends => ⟨_, reads_nilToken 0 .unary ends⟩⟩
  | @unary b t ts s operator _ ih =>
    exact ih.context [t] [] (fun _ ends => ends) fun _ read => ⟨_, .unary operator read⟩
  | primary _ _ ih =>
    exact ih.context [] [] (fun _ ends => ends) fun _ read => ⟨_, read.unary_of_primary⟩
  | @nothing b ts _ =>
    apply repairable_of_remedy []
    intro remedy asked
    rcases asked with ⟨t, rfl, isLiteral⟩
    rcases Option.isSome_iff_exists.1 isLiteral with ⟨v, value⟩
    exact ⟨[], fun rest ends => ⟨_, reads_literal value b .primary ends⟩⟩
  | @leftParen t ts _ =>
    apply repairable_of_remedy []
    rintro _ rfl
    exact ⟨[nilToken], fun rest ends => ⟨_, reads_nilToken 0 .primary ends⟩⟩
  | @inner b t ts s opens _ ih =>
    exact ih.context [t] [rightParenToken] (fun _ _ => stops_rightParen rfl _)
      fun _ read => ⟨_, .grouping opens read rfl⟩
  | @rightParen b t ts e rest opens first _ =>
    rcases first.exists_append with ⟨used, rfl⟩
    apply repairable_of_remedy (t :: used) rest
    intro remedy asked
    rcases asked with ⟨r, rfl, closes⟩
    refine ⟨[], fun rest _ => ⟨.grouping e, ?_⟩⟩
    exact .grouping opens (first.replace (.inl (stops_rightParen closes rest))) closes
  | @further level left t ts _ =>
    refine ⟨[], rfl, ?_⟩
    rintro _ rfl
    refine ⟨[], fun rest ends => ⟨fun _ _ _ => .inl ends, left, ?_⟩⟩
    have stops : Stops (.chain level) rest := ends.mono (Production.rank_le _)
    exact .finish stops.noOperator
  | @right b level left t ts s operator _ ih =>
    rcases ih with ⟨used, rfl, complete⟩
    refine ⟨t :: used, rfl, fun remedy asked => ?_⟩
    rcases complete remedy asked with ⟨tail, finish⟩
    refine ⟨tail, fun rest ends => ⟨fun _ _ _ => .inr rfl, ?_⟩⟩
    rcases finish rest ends with ⟨_, e, read⟩
    have stops : Stops (.chain level) rest := ends.mono (Production.rank_le _)
    exact ⟨_, .link operator read (.finish stops.noOperator)⟩
  | @link b level left t ts right middle s operator first _ ih =>
    rcases first.exists_append with ⟨passed, rfl⟩
    rcases ih with ⟨used, rfl, complete⟩
    refine ⟨t :: (passed ++ used), by simp, fun remedy asked => ?_⟩
    rcases complete remedy asked with ⟨tail, finish⟩
    refine ⟨tail, fun rest ends => ⟨fun _ _ _ => .inr rfl, ?_⟩⟩
    rcases finish rest ends with ⟨other, e, read⟩
    have firstAgain := first.replace (other _ _ rfl)
    exact ⟨e, by simpa using Reads.link operator firstAgain read⟩

/-! ## What is behind the token does not matter -/

/-- Whether a task fails at a token whatever is behind the token. -/
def FailsAt (b : Nat) (task : Task) (ts : List Token) (reason : Reason) (t : Token)
    (later : List Token) : Prop :=
  ∃ used, ts = used ++ t :: later ∧
    ∀ other, Fails b task (used ++ t :: other) ⟨reason, t :: other⟩

/-- A failure at a token is the same whatever is behind the token. -/
theorem Fails.persists {b : Nat} {task : Task} {ts : List Token} {s : Stuck}
    (failed : Fails b task ts s) {t : Token} {later : List Token} (found : s.rest = t :: later) :
    FailsAt b task ts s.reason t later := by
  rcases failed.relabel .refl with ⟨used, whole, alike⟩
  rw [found] at whole alike
  refine ⟨used, whole, fun other => ?_⟩
  have again := alike (t :: other) rfl
  rwa [Relabelling.map_refl] at again

/-! ## Failures of complete expressions -/

/-- A production does not ask for the end: only a complete expression does. -/
theorem Fails.reason_ne_expectedEnd {b : Nat} {task : Task} {ts : List Token} {s : Stuck}
    (failed : Fails b task ts s) : s.reason ≠ .expectedEnd := by
  induction failed with
  | expression _ ih | operand _ ih | condition _ ih => exact ih
  | chain _ _ ih | unary _ _ ih | primary _ _ ih | inner _ _ ih | right _ _ ih => exact ih
  | positive _ _ _ ih | link _ _ _ ih => exact ih
  | negative _ _ _ _ _ ih => exact ih
  | _ => exact nofun

/-- A failure of a complete expression is repaired by what it asks for. -/
theorem exists_reads_of_remedy {limit : Nat} {used : List Token} {s : Stuck}
    (failed : complete limit (used ++ s.rest) = .error s) {remedy : List Token}
    (asked : Remedy s.reason remedy) :
    ∃ v e, Reads limit (.follow .expression) (used ++ (remedy ++ v)) e [] := by
  have ends : Stops .expression [] := nofun
  rcases complete_eq_error.1 failed with stuck | ⟨e, rest, read, _, rfl⟩
  · rcases stuck.repairable with ⟨passed, whole, complete⟩
    obtain rfl : used = passed := List.append_cancel_right whole
    rcases complete remedy asked with ⟨tail, finish⟩
    rcases finish [] ends with ⟨_, e, read⟩
    exact ⟨tail, e, by simpa using read⟩
  · obtain rfl : remedy = [] := asked
    exact ⟨[], e, read.replace (.inl ends)⟩

/-- If only the end is missing, then what was passed is an expression. -/
theorem reads_of_expectedEnd {limit : Nat} {used rest : List Token}
    (failed : complete limit (used ++ rest) = .error ⟨.expectedEnd, rest⟩) :
    ∃ e, Reads limit (.follow .expression) used e [] := by
  rcases complete_eq_error.1 failed with stuck | ⟨e, _, read, _, same⟩
  · exact absurd rfl stuck.reason_ne_expectedEnd
  · cases same
    have alone : Reads limit (.follow .expression) (used ++ []) e [] := read.replace (.inl nofun)
    exact ⟨e, by simpa using alone⟩

/-- A failure of a complete expression is the same whatever is behind the token. -/
theorem complete_persists {limit : Nat} {used later : List Token} {reason : Reason} {t : Token}
    (failed : complete limit (used ++ t :: later) = .error ⟨reason, t :: later⟩)
    (other : List Token) :
    complete limit (used ++ t :: other) = .error ⟨reason, t :: other⟩ := by
  rw [complete_eq_error]
  rcases complete_eq_error.1 failed with stuck | ⟨e, _, read, more, same⟩
  · rcases stuck.persists rfl with ⟨passed, whole, again⟩
    obtain rfl : used = passed := List.append_cancel_right whole
    exact .inl (again other)
  · cases same
    exact .inr ⟨e, t :: other, read.replace (canReplace_append_cons [] t later other), more, rfl⟩

/-- What a complete expression passed before it failed is in front of the rest. -/
theorem exists_append_of_complete {limit : Nat} {ts : List Token} {s : Stuck}
    (failed : complete limit ts = .error s) : ∃ used, ts = used ++ s.rest := by
  rcases complete_eq_error.1 failed with stuck | ⟨_, _, read, _, rfl⟩
  · rcases stuck.repairable with ⟨used, whole, _⟩
    exact ⟨used, whole⟩
  · exact read.exists_append

end Grammar

/-! ## Reports -/

/-- Lists without an end of the input that are parsed. -/
def Accepted (ts : List Token) : Prop :=
  (∀ t ∈ ts, t.isEnd = false) ∧ ∃ e, parse ts = .ok e

/-- An expression that is read up to the end is accepted. -/
theorem accepted_of_reads {ts : List Token} {e : Expr}
    (read : Grammar.Reads Grammar.maxDepth (.follow .expression) ts e []) : Accepted ts := by
  constructor
  · rcases Grammar.reads_iff_conforms.1 read with ⟨shaped, _, _, used, rfl, spelled⟩
    simpa using shaped.isEnd_eq_false spelled
  · exact ⟨e, parse_eq_ok.2 ⟨[], Grammar.complete_eq_ok.2 ⟨read, rfl⟩⟩⟩

/-- A list that fails is not accepted. -/
theorem not_accepted_of_complete {ts : List Token} {s : Grammar.Stuck}
    (failed : Grammar.complete Grammar.maxDepth ts = .error s) : ¬Accepted ts := by
  intro parts
  rcases parts with ⟨_, e, returned⟩
  rcases parse_eq_ok.1 returned with ⟨rest, same⟩
  rw [failed] at same
  contradiction

/-- A report of a failure at a position is truthful: the tokens in front of the position
can be completed to an accepted list, those up to the token at the position cannot, and
the reason names a token with which the completion can begin. -/
structure Truthful (w : List Token) (position : Nat) (reason : Reason) : Prop where
  completes : ∃ v, Accepted (w.take position ++ v)
  earliest : position < w.length → ∀ v, ¬Accepted (w.take (position + 1) ++ v)
  ended : reason = .expectedEnd → Accepted (w.take position)
  expression : reason = .expectedExpression → ∀ t : Token, t.literal?.isSome = true →
    ∃ v, Accepted (w.take position ++ t :: v)
  rightParen : reason = .expectedRightParen → ∀ t : Token, t.mark? = some .rightParen →
    ∃ v, Accepted (w.take position ++ t :: v)
  colon : reason = .expectedColon → ∀ t : Token, t.mark? = some .colon →
    ∃ v, Accepted (w.take position ++ t :: v)

/-- Where a complete expression gets stuck, a report is truthful. -/
theorem truthful_of_complete {used : List Token} {s : Grammar.Stuck}
    (failed : Grammar.complete Grammar.maxDepth (used ++ s.rest) = .error s) :
    Truthful (used ++ s.rest) used.length s.reason := by
  have repaired : ∀ remedy, Grammar.Remedy s.reason remedy →
      ∃ v, Accepted (used ++ (remedy ++ v)) := by
    intro remedy asked
    rcases Grammar.exists_reads_of_remedy failed asked with ⟨v, e, read⟩
    exact ⟨v, accepted_of_reads read⟩
  rcases s with ⟨reason, rest⟩
  simp only at failed repaired
  constructor
  case completes =>
    rcases Grammar.exists_remedy reason with ⟨remedy, asked⟩
    rcases repaired remedy asked with ⟨v, accepted⟩
    exact ⟨remedy ++ v, by simpa using accepted⟩
  case earliest =>
    intro inside v
    cases rest with
    | nil => simp at inside
    | cons t later =>
      have again := not_accepted_of_complete (Grammar.complete_persists failed v)
      have whole : used.take (used.length + 1) = used := List.take_of_length_le (Nat.le_succ _)
      simpa [List.take_append, whole] using again
  case ended =>
    intro equal
    subst equal
    rcases Grammar.reads_of_expectedEnd failed with ⟨e, read⟩
    simpa using accepted_of_reads read
  case expression =>
    intro equal t isLiteral
    subst equal
    simpa using repaired [t] ⟨t, rfl, isLiteral⟩
  case rightParen =>
    intro equal t closes
    subst equal
    simpa using repaired [t] ⟨t, rfl, closes⟩
  case colon =>
    intro equal t colon
    subst equal
    simpa using repaired [t] ⟨t, rfl, colon⟩

/-- A failure is reported at the earliest token at which it can be found, which is the
token at the position where the session stays, and its reason is truthful. -/
theorem parse_failure_truthful {w : List Token} {failure : ParseError} {s : Session}
    (failed : (Session.start w).parse = (.error failure, s)) :
    s.position ≤ w.length ∧
      failure.token = w[s.position]?.getD (Session.start w).endToken ∧
      Truthful w s.position failure.reason := by
  unfold Session.parse at failed
  have all : (Session.start w).rest = w := List.drop_zero
  rw [all] at failed
  cases result : Grammar.complete Grammar.maxDepth w with
  | ok reading => simp [result] at failed
  | error stuck =>
    rcases Grammar.exists_append_of_complete result with ⟨used, rfl⟩
    simp only [result, Prod.mk.injEq, Except.error.injEq] at failed
    rcases failed with ⟨rfl, rfl⟩
    have place : ((Session.start (used ++ stuck.rest)).moveTo stuck.rest).position =
        used.length := by
      simp [Session.moveTo, Session.start]
    simp only [place]
    have shown : (used ++ stuck.rest)[used.length]? = stuck.rest.head? := by
      simp [List.getElem?_append_right, List.head?_eq_getElem?]
    refine ⟨by simp, ?_, truthful_of_complete result⟩
    rw [shown]
    rfl

/-- A grouping that is not closed. -/
def openGrouping : List Token :=
  [⟨.mark .leftParen, "(", 1⟩, Grammar.nilToken, Grammar.colonToken]

/-- What is reported for the grouping that is not closed. -/
def openGroupingFailure : ParseError :=
  ⟨.expectedRightParen, Grammar.colonToken⟩

/-- A parenthesis that would close the grouping is missing in front of the colon. -/
theorem truthful_openGrouping :
    (Session.start openGrouping).parse =
        (.error openGroupingFailure, ⟨openGrouping, 2, [openGroupingFailure.diagnostic]⟩) ∧
      Truthful openGrouping 2 .expectedRightParen := by
  have failed : (Session.start openGrouping).parse =
      (.error openGroupingFailure, ⟨openGrouping, 2, [openGroupingFailure.diagnostic]⟩) := by
    decide +kernel
  exact ⟨failed, (parse_failure_truthful failed).2.2⟩

end LoxExpr
