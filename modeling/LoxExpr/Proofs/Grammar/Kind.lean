import LoxExpr.Proofs.Grammar.Reading

/-!
# Kinds decide

A descent decides by the kinds of the tokens.  If their lexemes, lines and values are
exchanged, it reads the same tree with other tokens at the operators and other values at
the leaves, or gets stuck at the same place for the same reason.  Behind that place only
the kind of the next token matters, and an end of the input is as good as no token at all.

Main results:

- Theorem `Reads.relabel`: what a production reads from relabelled tokens is the relabelled
  tree.
- Theorem `Fails.relabel`: a production gets stuck at the same place of relabelled tokens.
- Theorems `complete_map_append` and `recover_map_append`: what a descent for a complete
  expression and a recovery make of relabelled tokens in front of an end.
-/

namespace LoxExpr

/-! ## Tokens of one kind -/

namespace Token

variable {t u : Token}

/-- Tokens of one kind are the same mark, or no mark. -/
theorem mark?_eq_of_kind (same : t.kind = u.kind) : t.mark? = u.mark? := by
  rcases t with ⟨symbol, lexeme, line⟩
  rcases u with ⟨other, lexeme', line'⟩
  cases symbol <;> cases other <;> simp_all [kind, Symbol.kind, mark?]

/-- Tokens of one kind continue the same chain. -/
theorem chain?_eq_of_kind (same : t.kind = u.kind) : t.chain? = u.chain? := by
  rw [chain?, chain?, mark?_eq_of_kind same]

/-- Tokens of one kind stand between operands of the same production. -/
theorem infix?_eq_of_kind (same : t.kind = u.kind) : t.infix? = u.infix? := by
  rw [infix?, infix?, mark?_eq_of_kind same, chain?_eq_of_kind same]

/-- Tokens of one kind are all unary operators, or none of them is. -/
theorem isUnary_eq_of_kind (same : t.kind = u.kind) : t.isUnary = u.isUnary := by
  rw [isUnary, isUnary, mark?_eq_of_kind same]

/-- Tokens of one kind all begin a statement, or none of them does. -/
theorem startsStatement_eq_of_kind (same : t.kind = u.kind) :
    t.startsStatement = u.startsStatement := by
  rcases t with ⟨symbol, lexeme, line⟩
  rcases u with ⟨other, lexeme', line'⟩
  cases symbol <;> cases other <;> simp_all [kind, Symbol.kind, startsStatement]

/-- Tokens of one kind are all literals, or none of them is. -/
theorem isSome_literal?_eq_of_kind (same : t.kind = u.kind) :
    t.literal?.isSome = u.literal?.isSome := by
  rcases t with ⟨symbol, lexeme, line⟩
  rcases u with ⟨other, lexeme', line'⟩
  cases symbol <;> cases other <;> simp_all [kind, Symbol.kind, literal?, Literal.ofSymbol?]

/-- Tokens of one kind all end the input, or none of them does. -/
theorem isEnd_eq_of_kind (same : t.kind = u.kind) : t.isEnd = u.isEnd := by
  rw [isEnd, isEnd, same]

/-- An end of the input carries no value. -/
theorem symbol_eq_of_kind (ends : t.kind = .endOfInput) : t.symbol = .endOfInput := by
  rcases t with ⟨symbol, lexeme, line⟩
  cases symbol <;> simp_all [kind, Symbol.kind]

/-- An end of the input is no mark. -/
theorem mark?_eq_none_of_kind (ends : t.kind = .endOfInput) : t.mark? = none := by
  rw [mark?, symbol_eq_of_kind ends]

/-- An end of the input is no unary operator. -/
theorem isUnary_eq_false_of_kind (ends : t.kind = .endOfInput) : t.isUnary = false := by
  rw [isUnary, mark?_eq_none_of_kind ends]
  rfl

/-- An end of the input is no literal. -/
theorem literal?_eq_none_of_kind (ends : t.kind = .endOfInput) : t.literal? = none := by
  rw [literal?, symbol_eq_of_kind ends]
  rfl

end Token

/-! ## Relabellings -/

/-- An exchange of tokens for tokens of the same kind. -/
structure Relabelling where
  token : Token → Token
  kind_token : ∀ t, (token t).kind = t.kind

instance : CoeFun Relabelling fun _ => Token → Token :=
  ⟨Relabelling.token⟩

namespace Relabelling

/-- The relabelling that exchanges nothing. -/
def refl : Relabelling :=
  ⟨id, fun _ => rfl⟩

/-- Where nothing is exchanged, the tokens are the same. -/
@[simp] theorem map_refl (ts : List Token) : ts.map refl = ts :=
  List.map_id ts

variable (f : Relabelling) (t : Token)

/-- A relabelled token is the same mark. -/
@[simp] theorem mark?_token : (f t).mark? = t.mark? :=
  Token.mark?_eq_of_kind (f.kind_token t)

/-- A relabelled token continues the same chain. -/
@[simp] theorem chain?_token : (f t).chain? = t.chain? :=
  Token.chain?_eq_of_kind (f.kind_token t)

/-- A relabelled token is a unary operator if the token is. -/
@[simp] theorem isUnary_token : (f t).isUnary = t.isUnary :=
  Token.isUnary_eq_of_kind (f.kind_token t)

/-- A relabelled token begins a statement if the token does. -/
@[simp] theorem startsStatement_token : (f t).startsStatement = t.startsStatement :=
  Token.startsStatement_eq_of_kind (f.kind_token t)

/-- A relabelled token ends the input if the token does. -/
@[simp] theorem isEnd_token : (f t).isEnd = t.isEnd :=
  Token.isEnd_eq_of_kind (f.kind_token t)

/-- A relabelled token is a literal if the token is. -/
@[simp] theorem isSome_literal?_token : (f t).literal?.isSome = t.literal?.isSome :=
  Token.isSome_literal?_eq_of_kind (f.kind_token t)

/-- A relabelled literal has a value. -/
theorem exists_literal?_token {t : Token} {v : Literal} (value : t.literal? = some v) :
    ∃ w, (f t).literal? = some w := by
  apply Option.isSome_iff_exists.1
  rw [isSome_literal?_token, value]
  rfl

end Relabelling

/-! ## Relabelled trees -/

namespace Expr

/-- A tree that was read from some tokens, as it is read from the relabelled ones: other
tokens stand at the operators, and the leaves have the values of the tokens that stand in
the places of theirs. -/
def relabel (f : Relabelling) : Expr → List Token → Expr
  | .literal v, ts => .literal ((ts.head?.bind fun t => (f t).literal?).getD v)
  | .grouping inner, ts => .grouping (inner.relabel f ts.tail)
  | .unary operator right, ts => .unary (f operator) (right.relabel f ts.tail)
  | .binary left operator right, ts =>
    .binary (left.relabel f ts) (f operator) (right.relabel f (ts.drop (left.flatten.length + 1)))
  | .conditional condition positive negative, ts =>
    let branches := ts.drop (condition.flatten.length + 1)
    .conditional (condition.relabel f ts) (positive.relabel f branches)
      (negative.relabel f (branches.drop (positive.flatten.length + 1)))
  | .sequence left right, ts =>
    .sequence (left.relabel f ts) (right.relabel f (ts.drop (left.flatten.length + 1)))

/-- A tree is spelled by as many tokens as its flattening has pieces. -/
theorem SpelledBy.length_eq {e : Expr} {ts : List Token} (spelled : e.SpelledBy ts) :
    e.flatten.length = ts.length :=
  List.Forall₂.length_eq spelled

/-- Behind the tokens of a tree and one more are those of its neighbour. -/
theorem SpelledBy.drop_append_cons {e : Expr} {us : List Token} (spelled : e.SpelledBy us)
    (t : Token) (vs : List Token) : (us ++ t :: vs).drop (e.flatten.length + 1) = vs := by
  rw [spelled.length_eq]
  simp [List.drop_append]

variable {f : Relabelling}

/-- A tree is relabelled by its own tokens, whatever is behind them. -/
theorem relabel_append {e : Expr} {us : List Token} (spelled : e.SpelledBy us)
    (ws : List Token) : e.relabel f (us ++ ws) = e.relabel f us := by
  induction e generalizing us ws with
  | literal v =>
    rcases spelledBy_literal.1 spelled with ⟨t, rfl, _⟩
    rfl
  | grouping inner ih =>
    rcases spelledBy_grouping.1 spelled with ⟨l, us, r, rfl, _, inside, _⟩
    simp only [relabel, List.cons_append, List.tail_cons, List.append_assoc]
    rw [ih inside, ih inside]
  | unary operator right ih =>
    rcases spelledBy_unary.1 spelled with ⟨us, rfl, operand⟩
    simp only [relabel, List.cons_append, List.tail_cons]
    rw [ih operand]
  | binary left operator right ihLeft ihRight =>
    rcases spelledBy_binary.1 spelled with ⟨us, vs, rfl, first, second⟩
    simp only [relabel, List.append_assoc, List.cons_append, first.drop_append_cons]
    rw [ihLeft first, ihLeft first, ihRight second]
  | conditional condition positive negative ihCondition ihPositive ihNegative =>
    obtain ⟨us, q, vs, k, rest, rfl, first, _, second, _, third⟩ := spelledBy_conditional.1 spelled
    simp only [relabel, List.append_assoc, List.cons_append, first.drop_append_cons,
      second.drop_append_cons]
    rw [ihCondition first, ihCondition first, ihPositive second, ihPositive second,
      ihNegative third]
  | sequence left right ihLeft ihRight =>
    rcases spelledBy_sequence.1 spelled with ⟨us, o, vs, rfl, first, _, second⟩
    simp only [relabel, List.append_assoc, List.cons_append, first.drop_append_cons]
    rw [ihLeft first, ihLeft first, ihRight second]

/-- A relabelled tree is spelled by the relabelled tokens. -/
theorem SpelledBy.relabel {e : Expr} {us : List Token} (spelled : e.SpelledBy us) :
    (e.relabel f us).SpelledBy (us.map f) := by
  induction e generalizing us with
  | literal v =>
    rcases spelledBy_literal.1 spelled with ⟨t, rfl, value⟩
    rcases f.exists_literal?_token value with ⟨w, other⟩
    refine spelledBy_literal.2 ⟨f t, rfl, ?_⟩
    simp [other]
  | grouping inner ih =>
    rcases spelledBy_grouping.1 spelled with ⟨l, us, r, rfl, opens, inside, closes⟩
    refine spelledBy_grouping.2 ⟨f l, us.map f, f r, by simp, by simpa using opens, ?_, ?_⟩
    · simp only [List.tail_cons, relabel_append inside]
      exact ih inside
    · simpa using closes
  | unary operator right ih =>
    rcases spelledBy_unary.1 spelled with ⟨us, rfl, operand⟩
    exact spelledBy_unary.2 ⟨us.map f, rfl, ih operand⟩
  | binary left operator right ihLeft ihRight =>
    rcases spelledBy_binary.1 spelled with ⟨us, vs, rfl, first, second⟩
    simp only [Expr.relabel, relabel_append first, first.drop_append_cons]
    exact spelledBy_binary.2 ⟨us.map f, vs.map f, by simp, ihLeft first, ihRight second⟩
  | conditional condition positive negative ihCondition ihPositive ihNegative =>
    obtain ⟨us, q, vs, k, ws, rfl, first, question, second, colon, third⟩ :=
      spelledBy_conditional.1 spelled
    simp only [Expr.relabel, relabel_append first, first.drop_append_cons, relabel_append second,
      second.drop_append_cons]
    refine spelledBy_conditional.2 ⟨us.map f, f q, vs.map f, f k, ws.map f, by simp,
      ihCondition first, by simpa using question, ihPositive second, by simpa using colon,
      ihNegative third⟩
  | sequence left right ihLeft ihRight =>
    rcases spelledBy_sequence.1 spelled with ⟨us, o, vs, rfl, first, comma, second⟩
    simp only [Expr.relabel, relabel_append first, first.drop_append_cons]
    refine spelledBy_sequence.2 ⟨us.map f, f o, vs.map f, by simp, ihLeft first, ?_,
      ihRight second⟩
    simpa using comma

/-- A relabelled tree has as many operators of a chain up to its root. -/
@[simp] theorem links_relabel (level : Chain) (e : Expr) (ts : List Token) :
    (e.relabel f ts).links level = e.links level := by
  induction e generalizing ts with
  | binary left operator right ihLeft _ => simp [Expr.relabel, links, ihLeft]
  | sequence left right ihLeft _ => simp [Expr.relabel, links, ihLeft]
  | _ => rfl

/-- A relabelled tree is nested as deeply. -/
@[simp] theorem nest_relabel (e : Expr) (ts : List Token) : (e.relabel f ts).nest = e.nest := by
  induction e generalizing ts with
  | literal v => rfl
  | grouping inner ih => simp [Expr.relabel, nest, ih]
  | unary operator right ih => simp [Expr.relabel, nest, ih]
  | binary left operator right ihLeft ihRight =>
    simp only [Expr.relabel, nest, ihLeft, ihRight, Relabelling.chain?_token]
    cases operator.chain? <;> simp
  | conditional condition positive negative ihCondition ihPositive ihNegative =>
    simp [Expr.relabel, nest, ihCondition, ihPositive, ihNegative]
  | sequence left right ihLeft ihRight => simp [Expr.relabel, nest, ihLeft, ihRight]

/-- A tree that nothing is exchanged in is the same tree. -/
theorem relabel_refl {e : Expr} {us : List Token} (spelled : e.SpelledBy us) :
    e.relabel .refl us = e := by
  induction e generalizing us with
  | literal v =>
    rcases spelledBy_literal.1 spelled with ⟨t, rfl, value⟩
    simp [Expr.relabel, Relabelling.refl, value]
  | grouping inner ih =>
    rcases spelledBy_grouping.1 spelled with ⟨l, us, r, rfl, _, inside, _⟩
    simp [Expr.relabel, relabel_append inside, ih inside]
  | unary operator right ih =>
    rcases spelledBy_unary.1 spelled with ⟨us, rfl, operand⟩
    simp only [Expr.relabel, List.tail_cons, ih operand]
    rfl
  | binary left operator right ihLeft ihRight =>
    rcases spelledBy_binary.1 spelled with ⟨us, vs, rfl, first, second⟩
    simp only [Expr.relabel, relabel_append first, first.drop_append_cons, ihLeft first,
      ihRight second]
    rfl
  | conditional condition positive negative ihCondition ihPositive ihNegative =>
    obtain ⟨us, q, vs, k, ws, rfl, first, _, second, _, third⟩ := spelledBy_conditional.1 spelled
    simp [Expr.relabel, relabel_append first, first.drop_append_cons, relabel_append second,
      second.drop_append_cons, ihCondition first, ihPositive second, ihNegative third]
  | sequence left right ihLeft ihRight =>
    rcases spelledBy_sequence.1 spelled with ⟨us, o, vs, rfl, first, _, second⟩
    simp [Expr.relabel, relabel_append first, first.drop_append_cons, ihLeft first, ihRight second]

/-- Operands that are joined by an operator are relabelled one by one. -/
theorem relabel_join {level : Chain} {left right : Expr} {us : List Token}
    (spelled : left.SpelledBy us) (t : Token) (vs : List Token) :
    (level.join left t right).relabel f (us ++ t :: vs) =
      level.join (left.relabel f us) (f t) (right.relabel f vs) := by
  cases level <;>
    simp only [Chain.join, Expr.relabel, relabel_append spelled, spelled.drop_append_cons]

end Expr

namespace Grammar

variable {f : Relabelling}

/-- A relabelled tree has the same shape. -/
theorem Shaped.relabel {p : Production} {e : Expr} {us : List Token} (shaped : Shaped p e)
    (spelled : e.SpelledBy us) : Shaped p (e.relabel f us) := by
  induction shaped generalizing us with
  | literal =>
    rcases Expr.spelledBy_literal.1 spelled with ⟨t, rfl, value⟩
    rcases f.exists_literal?_token value with ⟨w, other⟩
    simp only [Expr.relabel, List.head?_cons, Option.bind_some, other, Option.getD_some]
    exact .literal (isKeyword_of_literal? other)
  | grouping _ ih =>
    rcases Expr.spelledBy_grouping.1 spelled with ⟨l, us, r, rfl, _, inside, _⟩
    simp only [Expr.relabel, List.tail_cons, Expr.relabel_append inside]
    exact .grouping (ih inside)
  | primary _ ih => exact .primary (ih spelled)
  | unary operator _ ih =>
    rcases Expr.spelledBy_unary.1 spelled with ⟨us, rfl, operand⟩
    exact .unary (by simpa using operator) (ih operand)
  | item _ ih => exact .item (ih spelled)
  | @link level t l r operator _ _ ihLeft ihRight =>
    obtain ⟨us, o, vs, rfl, first, same, joined, second⟩ :=
      (Chain.spelledBy_join operator).1 spelled
    rw [← joined, Expr.relabel_join first]
    exact .link (by simpa using same) (ihLeft first) (ihRight second)
  | condition _ ih => exact .condition (ih spelled)
  | conditional _ _ _ ihCondition ihPositive ihNegative =>
    obtain ⟨us, q, vs, k, ws, rfl, first, _, second, _, third⟩ :=
      Expr.spelledBy_conditional.1 spelled
    simp only [Expr.relabel, Expr.relabel_append first, first.drop_append_cons,
      Expr.relabel_append second, second.drop_append_cons]
    exact .conditional (ihCondition first) (ihPositive second) (ihNegative third)
  | last _ ih => exact .last (ih spelled)
  | sequence _ _ ihLeft ihRight =>
    rcases Expr.spelledBy_sequence.1 spelled with ⟨us, o, vs, rfl, first, _, second⟩
    simp only [Expr.relabel, Expr.relabel_append first, first.drop_append_cons]
    exact .sequence (ihLeft first) (ihRight second)

/-! ## Reading relabelled tokens -/

/-- The kind of the token that comes next.  No token is as good as an end of the input. -/
def nextKind : List Token → Kind
  | [] => .endOfInput
  | t :: _ => t.kind

/-- The next kind tells whether the input is at its end. -/
theorem atEnd_eq_nextKind (ts : List Token) : atEnd ts = (nextKind ts == .endOfInput) := by
  cases ts <;> rfl

/-- No mark stands in front of an end of the input. -/
theorem startsWith_of_isEnd {t : Token} (ends : t.kind = .endOfInput) (mark : Mark)
    (rest : List Token) : startsWith mark (t :: rest) = false := by
  rw [startsWith_cons, Token.mark?_eq_none_of_kind ends]
  rfl

/-- In front of lists with the same next kind stand lists with the same next kind. -/
theorem nextKind_append {rest other : List Token} (same : nextKind other = nextKind rest)
    (used : List Token) : nextKind (used.map f ++ other) = nextKind (used ++ rest) := by
  cases used with
  | nil => exact same
  | cons t used => exact f.kind_token t

/-- Which mark comes next is decided by the next kind. -/
theorem startsWith_of_nextKind {rest other : List Token} (same : nextKind other = nextKind rest)
    (mark : Mark) : startsWith mark other = startsWith mark rest := by
  cases other with
  | nil =>
    cases rest with
    | nil => rfl
    | cons u rest => exact (startsWith_of_isEnd same.symm mark rest).symm
  | cons t other =>
    cases rest with
    | nil => exact startsWith_of_isEnd same mark other
    | cons u rest => simp only [startsWith_cons, Token.mark?_eq_of_kind same]

/-- What is said of the next token, in terms of its kind, is said in front of other tokens
with the same next kind. -/
theorem forall_head?_of_nextKind {P : Token → Prop} {rest other : List Token}
    (all : ∀ t ∈ rest.head?, P t) (same : nextKind other = nextKind rest)
    (alike : ∀ t u : Token, t.kind = u.kind → P u → P t)
    (ended : ∀ t : Token, t.kind = .endOfInput → P t) : ∀ t ∈ other.head?, P t := by
  cases other with
  | nil => exact nofun
  | cons t other =>
    intro first is
    obtain rfl : t = first := by simpa using is
    cases rest with
    | nil => exact ended t same
    | cons u rest => exact alike t u same (all u rfl)

/-- In front of something that can occur in an expression there is a next token. -/
theorem exists_cons_of_nextKind {t : Token} {rest other : List Token}
    (same : nextKind other = nextKind (t :: rest)) (occurs : t.inExpression = true) :
    ∃ u later, other = u :: later ∧ u.kind = t.kind := by
  cases other with
  | nil =>
    have notEnd := isEnd_eq_false_of_inExpression occurs
    have ends : t.kind = .endOfInput := same.symm
    simp [Token.isEnd, ends] at notEnd
  | cons u later => exact ⟨u, later, rfl, same⟩

/-- Whether a tree ends in front of some tokens is decided by the next kind. -/
theorem Stops.of_nextKind {p : Production} {rest other : List Token} (stops : Stops p rest)
    (same : nextKind other = nextKind rest) : Stops p other := by
  apply forall_head?_of_nextKind stops same
  · intro t u kinds looser q infixed
    exact looser q (Token.infix?_eq_of_kind kinds ▸ infixed)
  · intro t ends
    have ended : atEnd [t] = true := beq_iff_eq.2 ends
    exact stops_of_atEnd ended p t rfl

/-- A relabelled tree ends where the tree does. -/
theorem StopsAt.relabel {p : Production} {e : Expr} {rest other : List Token}
    (stops : StopsAt p e rest) (same : nextKind other = nextKind rest) (ts : List Token) :
    StopsAt p (e.relabel f ts) other := by
  refine ⟨stops.1.of_nextKind same, fun c p n is => ?_⟩
  cases e with
  | conditional c p n => exact (stops.2 c p n rfl).of_nextKind same
  | _ => cases is

/-- What a production reads from relabelled tokens is the relabelled tree. -/
theorem Reads.relabel {b : Nat} {p : Production} {used rest other : List Token} {e : Expr}
    (read : Reads b (.follow p) (used ++ rest) e rest) (same : nextKind other = nextKind rest) :
    Reads b (.follow p) (used.map f ++ other) (e.relabel f used) other := by
  rcases reads_iff_conforms.1 read with ⟨shaped, nest, stops, consumed, whole, spelled⟩
  obtain rfl : used = consumed := List.append_cancel_right whole
  apply reads_iff_conforms.2
  refine ⟨shaped.relabel spelled, ?_, stops.relabel same used, used.map f, rfl, spelled.relabel⟩
  rwa [Expr.nest_relabel]

/-! ## Getting stuck at relabelled tokens -/

/-- What a chain has so far has no influence on where it gets stuck. -/
theorem Fails.extend {b : Nat} {task : Task} {ts : List Token} {s : Stuck}
    (failed : Fails b task ts s) {level : Chain} {left : Expr} (is : task = .extend level left)
    (other : Expr) : Fails b (.extend level other) ts s := by
  induction failed generalizing left other with
  | further operator =>
    cases is
    exact .further operator
  | right operator inner _ =>
    cases is
    exact .right operator inner
  | link operator read _ ih =>
    cases is
    exact .link operator read (ih rfl _)
  | _ => cases is

/-- Whether a task gets stuck at the same place of relabelled tokens, in front of anything
with the same next kind. -/
def FailsAlike (f : Relabelling) (b : Nat) (task : Task) (ts : List Token) (s : Stuck) : Prop :=
  ∃ used, ts = used ++ s.rest ∧ ∀ other, nextKind other = nextKind s.rest →
    Fails b task (used.map f ++ other) ⟨s.reason, other⟩

/-- A failure of a part is a failure of the construct around it, for relabelled tokens as
well. -/
theorem FailsAlike.context {b b' : Nat} {task task' : Task} {ts : List Token} {s : Stuck}
    (inner : FailsAlike f b task ts s) (before : List Token)
    (pass : ∀ {us other : List Token}, nextKind us = nextKind ts →
      Fails b task us ⟨s.reason, other⟩ → Fails b' task' (before.map f ++ us) ⟨s.reason, other⟩) :
    FailsAlike f b' task' (before ++ ts) s := by
  rcases inner with ⟨used, whole, alike⟩
  refine ⟨before ++ used, by rw [List.append_assoc, ← whole], fun other same => ?_⟩
  rw [List.map_append, List.append_assoc]
  apply pass _ (alike other same)
  rw [whole]
  exact nextKind_append same used

/-- A failure in front of some tokens is one in front of any with the same next kind. -/
theorem failsAlike_of_nextKind {b : Nat} {task : Task} {reason : Reason} (used rest : List Token)
    (alike : ∀ other, nextKind other = nextKind rest →
      Fails b task (used.map f ++ other) ⟨reason, other⟩) :
    FailsAlike f b task (used ++ rest) ⟨reason, rest⟩ :=
  ⟨used, rfl, alike⟩

/-- A task gets stuck at the same place of relabelled tokens. -/
theorem Fails.relabel (f : Relabelling) {b : Nat} {task : Task} {ts : List Token} {s : Stuck}
    (failed : Fails b task ts s) : FailsAlike f b task ts s := by
  -- Finished parts are relabelled as a whole, and the part that fails keeps its next kind.
  induction failed with
  | expression _ ih => exact ih.context [] fun _ => .expression
  | operand _ ih => exact ih.context [] fun _ => .operand
  | condition _ ih => exact ih.context [] fun _ => .condition
  | chain first _ ih =>
    rcases first.exists_append with ⟨passed, rfl⟩
    exact ih.context passed fun same failed => .chain (first.relabel same) (failed.extend rfl _)
  | @question ts c q afterQuestion first question =>
    rcases first.exists_append with ⟨passed, rfl⟩
    apply failsAlike_of_nextKind
    intro other same
    rcases exists_cons_of_nextKind same (inExpression_of_mark? question rfl) with
      ⟨u, later, rfl, kinds⟩
    exact .question (first.relabel same) (Token.mark?_eq_of_kind kinds ▸ question)
  | @positive b ts c q afterQuestion s first question _ ih =>
    rcases first.exists_append with ⟨passed, rfl⟩
    have alike : FailsAlike f (b + 1) (.follow .conditional)
        (passed ++ [q] ++ afterQuestion) s := by
      apply ih.context
      intro us other _ failed
      have again : nextKind (f q :: us) = nextKind (q :: afterQuestion) := f.kind_token q
      simpa using Fails.positive (first.relabel again) (by simpa using question) failed
    simpa using alike
  | @colon b ts c q afterQuestion p rest first question second missing =>
    rcases first.exists_append with ⟨passed, rfl⟩
    rcases second.exists_append with ⟨used, rfl⟩
    have alike : FailsAlike f (b + 1) (.follow .conditional) (passed ++ q :: used ++ rest)
        ⟨.expectedColon, rest⟩ := by
      apply failsAlike_of_nextKind
      intro other same
      have again : nextKind (f q :: (used.map f ++ other)) = nextKind (q :: (used ++ rest)) :=
        f.kind_token q
      have missingAgain := (startsWith_of_nextKind same .colon).trans missing
      simpa using Fails.colon (first.relabel again) (by simpa using question)
        (second.relabel same) missingAgain
    simpa using alike
  | @negative b ts c q afterQuestion p k afterColon s first question second colon _ ih =>
    rcases first.exists_append with ⟨passed, rfl⟩
    rcases second.exists_append with ⟨used, rfl⟩
    have alike : FailsAlike f (b + 1) (.follow .conditional)
        (passed ++ q :: (used ++ [k]) ++ afterColon) s := by
      apply ih.context
      intro us other _ failed
      have againColon : nextKind (f k :: us) = nextKind (k :: afterColon) := f.kind_token k
      have again : nextKind (f q :: (used.map f ++ f k :: us)) =
          nextKind (q :: (used ++ k :: afterColon)) := f.kind_token q
      simpa using Fails.negative (first.relabel again) (by simpa using question)
        (second.relabel againColon) (by simpa using colon) failed
    simpa using alike
  | @operator t ts operator =>
    apply failsAlike_of_nextKind []
    intro other same
    rcases exists_cons_of_nextKind same (inExpression_of_isUnary operator) with
      ⟨u, later, rfl, kinds⟩
    exact .operator (Token.isUnary_eq_of_kind kinds ▸ operator)
  | @unary _ t _ _ operator _ ih =>
    exact ih.context [t] fun _ => .unary (by simpa using operator)
  | primary notOperator _ ih =>
    refine ih.context [] fun same failed => .primary ?_ failed
    apply forall_head?_of_nextKind notOperator same
    · intro t u kinds hunary
      rwa [Token.isUnary_eq_of_kind kinds]
    · exact fun t ends => Token.isUnary_eq_false_of_kind ends
  | @nothing b ts hneither =>
    apply failsAlike_of_nextKind []
    intro other same
    apply Fails.nothing
    apply forall_head?_of_nextKind hneither same
    · intro t u kinds neither
      rw [← Option.isNone_iff_eq_none, ← Option.not_isSome] at neither ⊢
      rwa [Token.isSome_literal?_eq_of_kind kinds, Token.mark?_eq_of_kind kinds]
    · intro t ends
      simp [Token.literal?_eq_none_of_kind ends, Token.mark?_eq_none_of_kind ends]
  | leftParen opens =>
    apply failsAlike_of_nextKind []
    intro other same
    rcases exists_cons_of_nextKind same (inExpression_of_mark? opens rfl) with
      ⟨u, later, rfl, kinds⟩
    exact .leftParen (Token.mark?_eq_of_kind kinds ▸ opens)
  | @inner _ t _ _ opens _ ih =>
    exact ih.context [t] fun _ => .inner (by simpa using opens)
  | @rightParen b t ts e rest opens first missing =>
    rcases first.exists_append with ⟨used, rfl⟩
    apply failsAlike_of_nextKind (t :: used) rest
    intro other same
    have missingAgain := (startsWith_of_nextKind same .rightParen).trans missing
    exact .rightParen (by simpa using opens) (first.relabel same) missingAgain
  | further operator =>
    apply failsAlike_of_nextKind []
    intro other same
    rcases exists_cons_of_nextKind same (inExpression_of_chain? operator) with
      ⟨u, later, rfl, kinds⟩
    exact .further (Token.chain?_eq_of_kind kinds ▸ operator)
  | @right _ _ _ t _ _ operator _ ih =>
    exact ih.context [t] fun _ => .right (by simpa using operator)
  | @link b level left t ts right middle s operator first _ ih =>
    rcases first.exists_append with ⟨passed, rfl⟩
    apply ih.context (t :: passed)
    intro us other same failed
    exact .link (by simpa using operator) (first.relabel same) (failed.extend rfl _)

/-! ## Up to an end -/

/-- An end comes next in front of an end of the input. -/
theorem nextKind_of_atEnd {ts : List Token} (ends : atEnd ts = true) :
    nextKind ts = .endOfInput := by
  rwa [atEnd_eq_nextKind, beq_iff_eq] at ends

/-- In front of an end the next kind is that of the tokens alone. -/
theorem nextKind_map_append {beyond : List Token} (ends : atEnd beyond = true) (ts : List Token) :
    nextKind (ts.map f ++ beyond) = nextKind ts := by
  have hends : nextKind beyond = nextKind [] := nextKind_of_atEnd ends
  have same := nextKind_append (f := f) hends ts
  rwa [List.append_nil] at same

/-- The outcome of a descent over some tokens, as it is for the relabelled tokens in front
of an end. -/
def Reading.relabel (f : Relabelling) (ts beyond : List Token) : Reading → Reading
  | .ok (e, rest) => .ok (e.relabel f ts, rest.map f ++ beyond)
  | .error s => .error ⟨s.reason, s.rest.map f ++ beyond⟩

/-- A descent for a complete expression decides by the kinds in front of the end. -/
theorem complete_map_append (f : Relabelling) {limit : Nat} {ts beyond : List Token}
    (inside : ∀ t ∈ ts, t.isEnd = false) (ends : atEnd beyond = true) :
    complete limit (ts.map f ++ beyond) = (complete limit ts).relabel f ts beyond := by
  cases result : complete limit ts with
  | ok reading =>
    rcases reading with ⟨e, rest⟩
    rcases complete_eq_ok.1 result with ⟨read, reached⟩
    rcases read.exists_append with ⟨used, rfl⟩
    cases rest with
    | nil =>
      have same : nextKind beyond = nextKind [] := nextKind_of_atEnd ends
      have again := read.relabel (f := f) same
      rw [List.append_nil]
      exact complete_eq_ok.2 ⟨again, ends⟩
    | cons t rest =>
      have notEnd := inside t (by simp)
      rw [show t.isEnd = true from reached] at notEnd
      contradiction
  | error s =>
    apply complete_eq_error.2
    have same := nextKind_map_append (f := f) ends s.rest
    rcases complete_eq_error.1 result with failed | ⟨e, rest, read, more, rfl⟩
    · rcases failed.relabel f with ⟨used, whole, alike⟩
      have again := alike (s.rest.map f ++ beyond) same
      rw [← List.append_assoc, ← List.map_append, ← whole] at again
      exact .inl again
    · rcases read.exists_append with ⟨used, rfl⟩
      refine .inr ⟨e.relabel f used, rest.map f ++ beyond, ?_, ?_, rfl⟩
      · rw [List.map_append, List.append_assoc]
        exact read.relabel same
      · rwa [atEnd_eq_nextKind, same, ← atEnd_eq_nextKind]

/-- At an end nothing is skipped. -/
theorem skipStatement_of_atEnd {ts : List Token} (ends : atEnd ts = true) (previous : Token) :
    skipStatement previous ts = ts := by
  cases ts with
  | nil => rfl
  | cons t rest =>
    have isEnd : t.isEnd = true := ends
    simp [skipStatement, isEnd]

/-- Skipping decides by the kinds in front of the end. -/
theorem skipStatement_map_append (f : Relabelling) {beyond : List Token}
    (ends : atEnd beyond = true) (previous : Token) (ts : List Token) :
    skipStatement (f previous) (ts.map f ++ beyond) =
      (skipStatement previous ts).map f ++ beyond := by
  induction ts generalizing previous with
  | nil => exact skipStatement_of_atEnd ends _
  | cons t rest ih =>
    simp only [List.map_cons, List.cons_append, skipStatement, Relabelling.isEnd_token,
      Relabelling.mark?_token, Relabelling.startsStatement_token, ih]
    split <;> rfl

/-- Recovery decides by the kinds in front of the end. -/
theorem recover_map_append (f : Relabelling) {beyond : List Token} (ends : atEnd beyond = true)
    (ts : List Token) : recover (ts.map f ++ beyond) = (recover ts).map f ++ beyond := by
  cases ts with
  | nil => exact recover_of_atEnd ends
  | cons t rest =>
    simp only [List.map_cons, List.cons_append, recover, Relabelling.isEnd_token,
      skipStatement_map_append f ends]
    split <;> rfl

/-- The tokens that recovery skips stand in front of the end. -/
theorem skipped_map_append (f : Relabelling) {beyond : List Token} (ends : atEnd beyond = true)
    (ts : List Token) : skipped (ts.map f ++ beyond) = (skipped ts).map f := by
  unfold skipped
  rw [recover_map_append f ends]
  cases ts with
  | nil =>
    have hzero : beyond.tail.length - beyond.length = 0 := by
      rw [List.length_tail]
      omega
    simp only [recover, List.map_nil, List.nil_append, List.tail_nil, List.take_nil, hzero,
      List.take_zero]
  | cons t rest =>
    simp only [List.map_cons, List.cons_append, List.tail_cons, List.length_append, List.length_map,
      Nat.add_sub_add_right, List.map_take]
    apply List.take_append_of_le_length
    rw [List.length_map]
    exact Nat.sub_le _ _

/-- The outcome of a descent, in front of some more tokens. -/
def Reading.append (beyond : List Token) : Reading → Reading
  | .ok (e, rest) => .ok (e, rest ++ beyond)
  | .error s => .error ⟨s.reason, s.rest ++ beyond⟩

/-- An end makes no difference to a descent for a complete expression. -/
theorem complete_append {limit : Nat} {ts beyond : List Token}
    (inside : ∀ t ∈ ts, t.isEnd = false) (ends : atEnd beyond = true) :
    complete limit (ts ++ beyond) = (complete limit ts).append beyond := by
  have same : complete limit (ts.map Relabelling.refl ++ beyond) = _ :=
    complete_map_append .refl inside ends
  rw [Relabelling.map_refl] at same
  rw [same]
  cases result : complete limit ts with
  | ok reading =>
    rcases reading with ⟨e, rest⟩
    rcases complete_eq_ok_iff.1 ⟨rest, result⟩ with ⟨_, _, spelled⟩
    rw [beforeEnd_eq_self inside] at spelled
    simp only [Reading.relabel, Reading.append, Relabelling.map_refl, Expr.relabel_refl spelled]
  | error s => simp only [Reading.relabel, Reading.append, Relabelling.map_refl]

/-- An end makes no difference to a recovery. -/
theorem recover_append {beyond : List Token} (ends : atEnd beyond = true) (ts : List Token) :
    recover (ts ++ beyond) = recover ts ++ beyond := by
  simpa using recover_map_append .refl ends ts

/-- An end makes no difference to what recovery skips. -/
theorem skipped_append {beyond : List Token} (ends : atEnd beyond = true) (ts : List Token) :
    skipped (ts ++ beyond) = skipped ts := by
  simpa using skipped_map_append .refl ends ts

end Grammar

end LoxExpr
