import LoxExpr.Proofs.Grammar.Derivation
import LoxExpr.Proofs.Grammar.Shape

/-!
# What a parse reads

A descent reads a tree exactly when the tree has the shape of the production, its
nesting stays within the budget, it is spelled by the tokens that are consumed, and
the next token does not go on with it.

Main results:

- Theorem `Reads.assures`: what a production reads is shaped, within the budget,
  spelled by the consumed tokens, and complete.
- Theorem `Shaped.readable`: such a tree is read.
- Theorem `reads_iff_conforms`: both together, for every production and budget.
- Theorem `parse_eq_ok_iff`: a parse returns the canonical trees within the limit that
  the tokens in front of the end of the input spell.
-/

namespace LoxExpr

/-! ## What ends a tree -/

/-- The production in which a token stands between two operands. -/
def Token.infix? (t : Token) : Option Production :=
  if t.mark? = some .questionMark then some .conditional else t.chain?.map .chain

namespace Grammar

/-- The next token does not go on with a tree of a production: it is no infix, or one
of a looser production. -/
def Stops (p : Production) (ts : List Token) : Prop :=
  ∀ t ∈ ts.head?, ∀ q ∈ t.infix?, p.rank < q.rank

/-- The tokens behind a tree of a production do not go on with it.  The last branch of
a conditional goes on with every infix. -/
def StopsAt (p : Production) (e : Expr) (ts : List Token) : Prop :=
  Stops p ts ∧ ∀ condition positive negative,
    e = .conditional condition positive negative → Stops .expression ts

/-- An infix stands in a conditional or in a chain. -/
theorem infix?_cases {t : Token} {q : Production} (h : t.infix? = some q) :
    (q = .conditional ∧ t.mark? = some .questionMark) ∨
      ∃ level, q = .chain level ∧ t.chain? = some level := by
  unfold Token.infix? at h
  split at h
  next question => exact .inl ⟨(Option.some.inj h).symm, question⟩
  next =>
    rcases Option.map_eq_some_iff.1 h with ⟨level, operator, rfl⟩
    exact .inr ⟨level, rfl, operator⟩

/-- The operator of a chain is an infix of that chain. -/
theorem infix?_of_chain? {t : Token} {level : Chain} (h : t.chain? = some level) :
    t.infix? = some (.chain level) := by
  have notQuestion : t.mark? ≠ some .questionMark := by
    intro question
    simp [Token.chain?, question, Chain.ofMark?] at h
  simp [Token.infix?, notQuestion, h]

theorem infix?_of_questionMark {t : Token} (h : t.mark? = some .questionMark) :
    t.infix? = some .conditional :=
  if_pos h

/-- A mark that continues neither a conditional nor a chain goes on with nothing. -/
theorem stops_of_mark? {t : Token} {mark : Mark} (h : t.mark? = some mark)
    (question : mark ≠ .questionMark) (chain : Chain.ofMark? mark = none) (p : Production)
    (rest : List Token) : Stops p (t :: rest) := by
  intro u first q is
  obtain rfl : t = u := by simpa using first
  simp [Token.infix?, Token.chain?, h, question, chain] at is

/-- Nothing goes on with a tree at the end of the input. -/
theorem stops_of_atEnd {ts : List Token} (h : atEnd ts = true) (p : Production) :
    Stops p ts := by
  intro t first q is
  cases ts with
  | nil => simp at first
  | cons u rest =>
    obtain rfl : u = t := by simpa using first
    have noMark : u.mark? = none := by
      cases marked : u.mark? with
      | none => rfl
      | some mark => simp [atEnd, isEnd_eq_false_of_mark? marked] at h
    simp [Token.infix?, Token.chain?, noMark] at is

/-- What goes on with no tree of a production goes on with no tighter tree. -/
theorem Stops.mono {p q : Production} {ts : List Token} (stops : Stops p ts)
    (tighter : q.rank ≤ p.rank) : Stops q ts :=
  fun t first r is => Nat.lt_of_le_of_lt tighter (stops t first r is)

/-- In front of nothing that goes on with an expression, every tree ends. -/
theorem Stops.anywhere {ts : List Token} (stops : Stops .expression ts) (p : Production)
    (e : Expr) : StopsAt p e ts :=
  ⟨stops.mono p.rank_le, fun _ _ _ _ => stops⟩

/-- A token does not go on with trees that are tighter than its production. -/
theorem stops_of_infix? {t : Token} {p q : Production} (h : t.infix? = some q)
    (tighter : p.rank < q.rank) (rest : List Token) : Stops p (t :: rest) := by
  intro u first r is
  obtain rfl : t = u := by simpa using first
  obtain rfl : q = r := Option.some.inj (h.symm.trans is)
  exact tighter

/-- No infix goes on with an operator with one operand. -/
theorem stops_unary (ts : List Token) : Stops .unary ts := by
  intro t _ q is
  rcases infix?_cases is with ⟨rfl, _⟩ | ⟨level, rfl, _⟩
  · decide
  · cases level <;> decide

/-- No infix goes on with a primary expression. -/
theorem stops_primary (ts : List Token) : Stops .primary ts :=
  (stops_unary ts).mono (by decide)

/-- A token that goes on with no operand of a chain and is no operator of the chain does
not go on with the chain. -/
theorem Stops.chain {level : Chain} {ts : List Token} (stops : Stops level.operand ts)
    (noOperator : ∀ t ∈ ts.head?, t.chain? ≠ some level) : Stops (.chain level) ts := by
  intro t first q is
  have looser := stops t first q is
  rcases infix?_cases is with ⟨rfl, _⟩ | ⟨other, rfl, operator⟩
  · cases level <;> simp_all [Chain.operand, Production.rank]
  · have ne : other ≠ level := by
      intro equal
      subst equal
      exact noOperator t first operator
    cases level <;> cases other <;> simp_all [Chain.operand, Production.rank]

/-- A token that does not go on with an equality and is no question mark does not go on
with a conditional. -/
theorem Stops.conditional {ts : List Token} (stops : Stops (.chain .equality) ts)
    (noQuestion : startsWith .questionMark ts = false) : Stops .conditional ts := by
  intro t first q is
  have looser := stops t first q is
  rcases infix?_cases is with ⟨rfl, question⟩ | ⟨level, rfl, _⟩
  · cases ts with
    | nil => simp at first
    | cons u rest =>
      obtain rfl : u = t := by simpa using first
      simp [question] at noQuestion
  · cases level <;> simp_all [Production.rank]

/-- What does not go on with a sequence goes on with nothing. -/
theorem Stops.expression {p : Production} {ts : List Token} (stops : Stops p ts)
    (loose : (Production.chain .sequence).rank ≤ p.rank) : Stops .expression ts := by
  intro t first q is
  have looser := stops t first q is
  rcases infix?_cases is with ⟨rfl, _⟩ | ⟨level, rfl, _⟩
  · simp [Production.rank] at loose looser
    omega
  · cases level <;> simp [Production.rank] at loose looser ⊢ <;> omega

/-! ## What a production reads -/

/-- No token is a reserved word as a literal. -/
theorem isKeyword_of_literal? {t : Token} {v : Literal} (h : t.literal? = some v) :
    v.isKeyword = false := by
  rcases t with ⟨symbol, lexeme, line⟩
  cases Token.literal?_eq_some_iff.1 h <;> rfl

/-- The shape of the trees that a production reads. -/
def form : Production → Production
  | .chain .sequence => .expression
  | p => p

/-- The operands of a chain are no sequences. -/
theorem form_operand (level : Chain) : form level.operand = level.operand := by
  cases level <;> rfl

/-- What is known about a tree that a production reads within a budget, from a list of
tokens up to those behind the tree. -/
structure Conforms (b : Nat) (p : Production) (ts : List Token) (e : Expr)
    (rest : List Token) : Prop where
  shaped : Shaped (form p) e
  nest_le : e.nest ≤ b
  stops : StopsAt p e rest
  spelled : ∃ used, ts = used ++ rest ∧ e.SpelledBy used

/-- What is known about a chain when its loop looks at the next token: the chain can go
on, or it ended in a conditional and nothing can go on behind it. -/
def Open (level : Chain) (left : Expr) (ts : List Token) : Prop :=
  (Shaped (.chain level) left ∧ Stops level.operand ts) ∨
    (level = .sequence ∧ Shaped .expression left ∧ Stops .expression ts)

/-- A tree with the shape of a conditional is no tighter than one. -/
theorem Shaped.rank_conditional_le {p : Production} {e c q n : Expr} (shaped : Shaped p e)
    (is : e = .conditional c q n) : Production.conditional.rank ≤ p.rank := by
  induction shaped with
  | literal | grouping | unary | sequence => cases is
  | conditional => exact Nat.le_refl _
  | primary _ ih | condition _ ih | last _ ih => exact Nat.le_trans (ih is) (by decide)
  | @item level _ _ ih => exact Nat.le_trans (ih is) (Nat.le_of_lt level.rank_item_lt)
  | @link level => cases level <;> cases is

/-- A tree that is tighter than a conditional ends where its production does. -/
theorem Stops.stopsAt {p : Production} {e : Expr} {ts : List Token} (stops : Stops p ts)
    (shaped : Shaped p e) (tighter : p.rank < Production.conditional.rank) : StopsAt p e ts :=
  ⟨stops, fun _ _ _ is => absurd (shaped.rank_conditional_le is) (Nat.not_le.2 tighter)⟩

/-- A tree of a level can be followed by a comma only if it is no conditional. -/
theorem Shaped.operand_cases {level : Chain} {e : Expr} {ts : List Token}
    (shaped : Shaped level.operand e) (stops : StopsAt level.operand e ts) :
    (Shaped level.item e ∧ Stops level.operand ts) ∨
      (level = .sequence ∧ Shaped .conditional e ∧ Stops .expression ts) := by
  cases level with
  | sequence =>
    cases shaped with
    | condition equality => exact .inl ⟨equality, stops.1⟩
    | conditional condition positive negative =>
      exact .inr ⟨rfl, .conditional condition positive negative, stops.2 _ _ _ rfl⟩
  | _ => exact .inl ⟨shaped, stops.1⟩

/-- Comma lists are expressions. -/
theorem Shaped.expression_of_sequence {e : Expr} (shaped : Shaped (.chain .sequence) e) :
    Shaped .expression e := by
  cases shaped with
  | item equality => exact .last (.condition equality)
  | link operator left right => exact .sequence left (.condition right)

/-- A chain whose loop ends in front of a token conforms to its production. -/
theorem Open.shaped {level : Chain} {e : Expr} {ts : List Token} (opened : Open level e ts)
    (noOperator : ∀ t ∈ ts.head?, t.chain? ≠ some level) :
    Shaped (form (.chain level)) e ∧ StopsAt (.chain level) e ts := by
  rcases opened with ⟨shaped, stops⟩ | ⟨rfl, shaped, stops⟩
  · have stopsChain := stops.chain noOperator
    cases level with
    | sequence =>
      exact ⟨shaped.expression_of_sequence, (stopsChain.expression (Nat.le_refl _)).anywhere _ _⟩
    | _ => exact ⟨shaped, stopsChain.stopsAt shaped (by decide)⟩
  · exact ⟨shaped, stops.anywhere _ _⟩

/-- What is known about the outcome of a task.  A chain that goes on behind a tree is
judged as a whole, from the first token of that tree. -/
def Assures (b : Nat) : Task → List Token → Expr → List Token → Prop
  | .follow p, ts, e, rest => Conforms b p ts e rest
  | .extend level left, ts, e, rest =>
    ∀ before, Open level left ts → left.SpelledBy before →
      left.nest ≤ left.links level + b →
      Conforms (left.links level + b) (.chain level) (before ++ ts) e rest

/-- After its first operand a chain is open. -/
theorem Conforms.opens {b : Nat} {level : Chain} {ts middle : List Token} {left : Expr}
    (first : Conforms b level.operand ts left middle) : Open level left middle := by
  have shaped := first.shaped
  rw [form_operand] at shaped
  rcases shaped.operand_cases first.stops with ⟨item, stops⟩ | ⟨rfl, conditional, stops⟩
  · exact .inl ⟨.item item, stops⟩
  · exact .inr ⟨rfl, .last conditional, stops⟩

/-- A chain in front of one of its operators can go on. -/
theorem Open.shaped_left {level : Chain} {left : Expr} {t : Token} {ts : List Token}
    (opened : Open level left (t :: ts)) (operator : t.chain? = some level) :
    Shaped (.chain level) left := by
  rcases opened with ⟨shaped, _⟩ | ⟨_, _, stops⟩
  · exact shaped
  · have tighter := stops t rfl _ (infix?_of_chain? operator)
    exact absurd tighter (Nat.not_lt.2 (Production.rank_le _))

/-- After a further operand a chain is open again. -/
theorem Conforms.opens_join {b : Nat} {level : Chain} {t : Token} {ts middle : List Token}
    {left right : Expr} (operator : t.chain? = some level) (shapedLeft : Shaped (.chain level) left)
    (next : Conforms b level.operand ts right middle) :
    Open level (level.join left t right) middle := by
  have shaped := next.shaped
  rw [form_operand] at shaped
  rcases shaped.operand_cases next.stops with ⟨item, stops⟩ | ⟨rfl, conditional, stops⟩
  · exact .inl ⟨.link operator shapedLeft item, stops⟩
  · exact .inr ⟨rfl, .sequence shapedLeft conditional, stops⟩

/-- Whatever a task reads conforms. -/
theorem Reads.assures {b : Nat} {task : Task} {ts rest : List Token} {e : Expr}
    (read : Reads b task ts e rest) : Assures b task ts e rest := by
  -- The loop of a chain is judged together with the operators that it passed before.
  induction read with
  | expression _ ih =>
    have stops := ih.stops.1.expression (Nat.le_refl _)
    exact ⟨ih.shaped, ih.nest_le, stops.anywhere _ _, ih.spelled⟩
  | @chain b level ts left middle e rest _ _ ihOperand ihExtend =>
    have shaped := ihOperand.shaped
    rw [form_operand] at shaped
    have noLinks := shaped.links_eq_zero level.rank_operand_lt
    rcases ihOperand.spelled with ⟨used, rfl, spelled⟩
    have whole := ihExtend used ihOperand.opens spelled
    rw [noLinks, Nat.zero_add] at whole
    exact whole ihOperand.nest_le
  | condition _ noQuestion ih =>
    have stops := ih.stops.1.conditional noQuestion
    exact ⟨.condition ih.shaped, ih.nest_le, ⟨stops, ih.stops.2⟩, ih.spelled⟩
  | @conditional b ts c q _ p k _ n rest _ question _ colon _ ihC ihP ihN =>
    rcases ihC.spelled with ⟨us, rfl, first⟩
    rcases ihP.spelled with ⟨vs, rfl, second⟩
    rcases ihN.spelled with ⟨ws, rfl, third⟩
    have nestC := ihC.nest_le
    have nestP := ihP.nest_le
    have nestN := ihN.nest_le
    refine ⟨.conditional ihC.shaped ihP.shaped ihN.shaped, ?_, ?_, ?_⟩
    · simp only [Expr.nest]
      omega
    · exact ihN.stops.1.anywhere _ _
    · refine ⟨us ++ q :: (vs ++ k :: ws), by simp, ?_⟩
      exact Expr.spelledBy_conditional.2
        ⟨us, q, vs, k, ws, rfl, first, question, second, colon, third⟩
  | @unary b t ts e rest operator _ ih =>
    rcases ih.spelled with ⟨us, rfl, right⟩
    have shaped : Shaped .unary (.unary t e) := .unary operator ih.shaped
    have stops := (stops_unary rest).stopsAt shaped (by decide)
    refine ⟨shaped, Nat.succ_le_succ ih.nest_le, stops, t :: us, rfl, ?_⟩
    exact Expr.spelledBy_unary.2 ⟨us, rfl, right⟩
  | @primary b t ts e rest _ _ ih =>
    exact ⟨.primary ih.shaped, ih.nest_le, ⟨stops_unary rest, ih.stops.2⟩, ih.spelled⟩
  | @literal b t v rest value =>
    have shaped : Shaped .primary (.literal v) := .literal (isKeyword_of_literal? value)
    have stops := (stops_primary rest).stopsAt shaped (by decide)
    exact ⟨shaped, Nat.zero_le _, stops, [t], rfl, Expr.spelledBy_literal.2 ⟨t, rfl, value⟩⟩
  | @grouping b t ts e r rest opens _ closes ih =>
    rcases ih.spelled with ⟨us, rfl, inner⟩
    have shaped : Shaped .primary (.grouping e) := .grouping ih.shaped
    have stops := (stops_primary rest).stopsAt shaped (by decide)
    refine ⟨shaped, Nat.succ_le_succ ih.nest_le, stops, t :: (us ++ [r]), by simp, ?_⟩
    exact Expr.spelledBy_grouping.2 ⟨t, us, r, rfl, opens, inner, closes⟩
  | finish noOperator =>
    intro before opened spelled nest
    rcases opened.shaped noOperator with ⟨shaped, stops⟩
    exact ⟨shaped, nest, stops, before, rfl, spelled⟩
  | @link b level left t ts right middle e rest operator _ _ ihOperand ihExtend =>
    intro before opened spelled nest
    have shapedLeft := opened.shaped_left operator
    rcases ihOperand.spelled with ⟨us, rfl, spelledRight⟩
    have spelledJoin : (level.join left t right).SpelledBy (before ++ t :: us) :=
      (Chain.spelledBy_join operator).2 ⟨before, t, us, rfl, spelled, operator, rfl, spelledRight⟩
    have nestRight := ihOperand.nest_le
    have nestJoin := Chain.nest_join operator left right
    have links := Chain.links_join operator left right
    have whole := ihExtend (before ++ t :: us) (ihOperand.opens_join operator shapedLeft)
      spelledJoin (by omega)
    have limit : (level.join left t right).links level + b = left.links level + (b + 1) := by
      omega
    rw [limit] at whole
    simpa using whole

/-! ## What is read -/

/-- What is to be shown of a shaped tree.  A tree at the level of a chain is what the
loop has so far: whatever the loop reads behind it, the chain reads in all. -/
def Readable : Production → Expr → Prop
  | .chain level, e =>
    ∀ {b used ts e' rest}, e.nest ≤ b → e.SpelledBy used → Stops level.operand ts →
      Reads (b - e.links level) (.extend level e) ts e' rest →
      Reads b (.follow (.chain level)) (used ++ ts) e' rest
  | p, e =>
    ∀ {b used rest}, e.nest ≤ b → e.SpelledBy used → StopsAt p e rest →
      Reads b (.follow p) (used ++ rest) e rest

/-- A token that goes on with no tree of a chain is no operator of the chain. -/
theorem Stops.noOperator {level : Chain} {ts : List Token} (stops : Stops (.chain level) ts) :
    ∀ t ∈ ts.head?, t.chain? ≠ some level := by
  intro t first operator
  exact Nat.lt_irrefl _ (stops t first _ (infix?_of_chain? operator))

/-- A token that does not go on with a conditional is no question mark. -/
theorem Stops.noQuestion {ts : List Token} (stops : Stops .conditional ts) :
    startsWith .questionMark ts = false := by
  cases asked : startsWith .questionMark ts with
  | false => rfl
  | true =>
    rcases startsWith_iff.1 asked with ⟨q, rest, rfl, question⟩
    exact absurd (stops q rfl _ (infix?_of_questionMark question)) (Nat.lt_irrefl _)

/-- A chain that can be gone on with is read when its loop ends. -/
theorem Readable.chain {level : Chain} {e : Expr} (readable : Readable (.chain level) e)
    {b : Nat} {used rest : List Token} (nest : e.nest ≤ b) (spelled : e.SpelledBy used)
    (stops : Stops (.chain level) rest) :
    Reads b (.follow (.chain level)) (used ++ rest) e rest := by
  have tighter := stops.mono (Nat.le_of_lt level.rank_operand_lt)
  exact readable nest spelled tighter (.finish stops.noOperator)

/-- An item of a chain is read as an operand. -/
theorem Readable.operand {level : Chain} {e : Expr} (readable : Readable level.item e)
    (shaped : Shaped level.item e) {b : Nat} {used rest : List Token} (nest : e.nest ≤ b)
    (spelled : e.SpelledBy used) (stops : Stops level.operand rest) :
    Reads b (.follow level.operand) (used ++ rest) e rest := by
  cases level with
  | sequence =>
    have equality := Readable.chain readable nest spelled (stops.mono (by decide))
    exact .condition equality stops.noQuestion
  | multiplication => exact readable nest spelled (stops.stopsAt shaped (by decide))
  | _ => exact Readable.chain readable nest spelled stops

/-- A primary expression starts with no operator. -/
theorem Shaped.exists_cons {e : Expr} (shaped : Shaped .primary e) {ts : List Token}
    (spelled : e.SpelledBy ts) : ∃ t rest, ts = t :: rest ∧ t.isUnary = false := by
  cases shaped with
  | literal =>
    rcases Expr.spelledBy_literal.1 spelled with ⟨t, rfl, value⟩
    refine ⟨t, [], rfl, ?_⟩
    cases operator : t.isUnary with
    | false => rfl
    | true =>
      rcases exists_mark?_of_isUnary operator with ⟨mark, is⟩
      rw [literal?_eq_none_of_mark? is] at value
      cases value
  | grouping =>
    rcases Expr.spelledBy_grouping.1 spelled with ⟨l, us, r, rfl, opens, _, _⟩
    exact ⟨l, us ++ [r], rfl, by simp [Token.isUnary, opens]⟩

/-- Every shaped tree is readable. -/
theorem Shaped.readable {p : Production} {e : Expr} (shaped : Shaped p e) : Readable p e := by
  -- A chain folds to the left, so its loop is read from the innermost link outwards.
  induction shaped with
  | literal =>
    intro b used rest _ spelled _
    rcases Expr.spelledBy_literal.1 spelled with ⟨t, rfl, value⟩
    exact .literal value
  | grouping _ ih =>
    intro b used rest nest spelled _
    rcases Expr.spelledBy_grouping.1 spelled with ⟨l, us, r, rfl, opens, inner, closes⟩
    simp only [Expr.nest] at nest
    obtain ⟨n, rfl⟩ : ∃ n, b = n + 1 := ⟨b - 1, by omega⟩
    have stops := stops_of_mark? closes (by decide) rfl .expression rest
    have read := ih (Nat.le_of_succ_le_succ nest) inner (stops.anywhere _ _)
    simpa using Reads.grouping opens read closes
  | primary shaped ih =>
    intro b used rest nest spelled stops
    have read := ih nest spelled ⟨(stops_unary rest).mono (by decide), stops.2⟩
    rcases shaped.exists_cons spelled with ⟨t, us, rfl, notOperator⟩
    exact .primary notOperator read
  | unary operator shaped ih =>
    intro b used rest nest spelled _
    rcases Expr.spelledBy_unary.1 spelled with ⟨us, rfl, right⟩
    simp only [Expr.nest] at nest
    obtain ⟨n, rfl⟩ : ∃ n, b = n + 1 := ⟨b - 1, by omega⟩
    have stops := (stops_unary rest).stopsAt shaped (by decide)
    exact .unary operator (ih (Nat.le_of_succ_le_succ nest) right stops)
  | @item level e shaped ih =>
    intro b used ts e' rest nest spelled stops later
    rw [shaped.links_item, Nat.sub_zero] at later
    exact .chain (Readable.operand ih shaped nest spelled stops) later
  | @link level t l r operator shapedLeft shapedRight ihLeft ihRight =>
    intro b used ts e' rest nest spelled stops later
    obtain ⟨us, o, vs, rfl, left, same, joined, right⟩ := (Chain.spelledBy_join operator).1 spelled
    have nestJoin := Chain.nest_join operator l r
    have links := Chain.links_join operator l r
    -- The loop enters the operator with what is left after those before it.
    obtain ⟨n, budget⟩ : ∃ n, b - l.links level = n + 1 :=
      ⟨b - l.links level - 1, by omega⟩
    have readRight : Reads n (.follow level.operand) (vs ++ ts) r ts :=
      Readable.operand ihRight shapedRight (by omega) right stops
    rw [links, ← joined, show b - (l.links level + 1) = n by omega] at later
    have readLink := Reads.link same readRight later
    rw [← budget] at readLink
    have stopsOperand : Stops level.operand (o :: (vs ++ ts)) :=
      stops_of_infix? (infix?_of_chain? same) level.rank_operand_lt _
    simpa using ihLeft (by omega) left stopsOperand readLink
  | condition _ ih =>
    intro b used rest nest spelled stops
    have read := Readable.chain ih nest spelled (stops.1.mono (by decide))
    exact .condition read stops.1.noQuestion
  | conditional _ _ _ ihCondition ihPositive ihNegative =>
    intro b used rest nest spelled stops
    obtain ⟨us, q, vs, k, ws, rfl, first, question, second, colon, third⟩ :=
      Expr.spelledBy_conditional.1 spelled
    simp only [Expr.nest] at nest
    obtain ⟨n, rfl⟩ : ∃ n, b = n + 1 := ⟨b - 1, by omega⟩
    have stopsQuestion : Stops (.chain .equality) (q :: (vs ++ k :: (ws ++ rest))) :=
      stops_of_infix? (infix?_of_questionMark question) (by decide) _
    have stopsColon : Stops .expression (k :: (ws ++ rest)) :=
      stops_of_mark? colon (by decide) rfl _ _
    have last : Stops .expression rest := stops.2 _ _ _ rfl
    have readCondition : Reads (n + 1) _ _ _ _ :=
      Readable.chain ihCondition (by omega) first stopsQuestion
    have readPositive : Reads n _ _ _ _ := ihPositive (by omega) second (stopsColon.anywhere _ _)
    have readNegative : Reads n _ _ _ _ := ihNegative (by omega) third (last.anywhere _ _)
    simpa using Reads.conditional readCondition question readPositive colon readNegative
  | last _ ih =>
    intro b used rest nest spelled stops
    have read := ih nest spelled ⟨stops.1.mono (by decide), stops.2⟩
    have ends : Stops (.chain .sequence) rest := stops.1.mono (by decide)
    exact .expression (.chain read (.finish ends.noOperator))
  | @sequence l r shapedLeft _ ihLeft ihRight =>
    intro b used rest nest spelled stops
    rcases Expr.spelledBy_sequence.1 spelled with ⟨us, o, vs, rfl, left, comma, right⟩
    simp only [Expr.nest] at nest
    have operator := Token.chain?_eq_sequence_iff.2 comma
    obtain ⟨n, budget⟩ : ∃ n, b - l.links .sequence = n + 1 :=
      ⟨b - l.links .sequence - 1, by omega⟩
    have ends : Stops (.chain .sequence) rest := stops.1.mono (by decide)
    have readRight : Reads n _ _ _ _ := ihRight (by omega) right (stops.1.anywhere _ _)
    have readLink : Reads (n + 1) (.extend .sequence l) _ (.sequence l r) rest :=
      .link operator readRight (.finish ends.noOperator)
    rw [← budget] at readLink
    have stopsOperand : Stops .conditional (o :: (vs ++ rest)) :=
      stops_of_infix? (infix?_of_chain? operator) (by decide) _
    have readList := ihLeft (by omega) left stopsOperand readLink
    simpa using Reads.expression readList

/-- A production reads exactly the trees that conform to it. -/
theorem reads_iff_conforms {b : Nat} {p : Production} {ts rest : List Token} {e : Expr} :
    Reads b (.follow p) ts e rest ↔ Conforms b p ts e rest := by
  constructor
  · exact Reads.assures
  · intro parts
    rcases parts with ⟨shaped, nest, stops, used, rfl, spelled⟩
    cases p with
    | chain level =>
      cases level with
      | sequence =>
        have ends := stops.1.expression (Nat.le_refl _)
        cases shaped.readable nest spelled (ends.anywhere _ _) with
        | expression read => exact read
      | _ => exact Readable.chain shaped.readable nest spelled stops.1
    | _ => exact shaped.readable nest spelled stops

/-! ## Complete expressions -/

/-- The tokens in front of the end of the input. -/
def beforeEnd (ts : List Token) : List Token :=
  ts.takeWhile fun t => !t.isEnd

/-- No token in front of the end is an end. -/
theorem isEnd_eq_false_of_mem_beforeEnd {ts : List Token} {t : Token}
    (member : t ∈ beforeEnd ts) : t.isEnd = false := by
  simpa using List.all_eq_true.1 List.all_takeWhile t member

/-- What remains from the first end on is at the end. -/
theorem atEnd_dropWhile (ts : List Token) :
    atEnd (ts.dropWhile fun t => !t.isEnd) = true := by
  cases remains : ts.dropWhile fun t => !t.isEnd with
  | nil => rfl
  | cons t rest =>
    have stopped := List.head?_dropWhile_not (fun t : Token => !t.isEnd) ts
    rw [remains] at stopped
    simpa [atEnd] using stopped

/-- What remains when the tokens in front of the end are taken is at the end. -/
theorem exists_eq_beforeEnd_append (ts : List Token) :
    ∃ rest, ts = beforeEnd ts ++ rest ∧ atEnd rest = true :=
  ⟨_, List.takeWhile_append_dropWhile.symm, atEnd_dropWhile ts⟩

/-- The tokens in front of the end are those in front of a place that is at the end. -/
theorem beforeEnd_append {used rest : List Token} (inside : ∀ t ∈ used, t.isEnd = false)
    (ends : atEnd rest = true) : beforeEnd (used ++ rest) = used := by
  have passed : ∀ t ∈ used, (!t.isEnd) = true := by simpa using inside
  unfold beforeEnd
  rw [List.takeWhile_append_of_pos passed]
  cases rest with
  | nil => simp
  | cons t rest =>
    have : t.isEnd = true := ends
    simp [this]

/-- Without an end, all tokens are in front of it. -/
theorem beforeEnd_eq_self {ts : List Token} (inside : ∀ t ∈ ts, t.isEnd = false) :
    beforeEnd ts = ts := by
  have whole : beforeEnd (ts ++ []) = ts := beforeEnd_append inside rfl
  rwa [List.append_nil] at whole

/-- Within a limit, the complete expressions are the canonical trees that nest within
the limit and are spelled by the tokens in front of the end. -/
theorem complete_eq_ok_iff {limit : Nat} {ts : List Token} {e : Expr} :
    (∃ rest, complete limit ts = .ok (e, rest)) ↔
      e.Canonical ∧ e.nest ≤ limit ∧ e.SpelledBy (beforeEnd ts) := by
  constructor
  · intro parts
    rcases parts with ⟨rest, returned⟩
    rcases complete_eq_ok.1 returned with ⟨read, ends⟩
    rcases reads_iff_conforms.1 read with ⟨shaped, nest, _, used, rfl, spelled⟩
    rw [beforeEnd_append (shaped.isEnd_eq_false spelled) ends]
    exact ⟨shaped, nest, spelled⟩
  · intro parts
    rcases parts with ⟨shaped, nest, spelled⟩
    rcases exists_eq_beforeEnd_append ts with ⟨rest, whole, ends⟩
    have stops := (stops_of_atEnd ends .expression).anywhere .expression e
    have conforms : Conforms limit .expression ts e rest :=
      ⟨shaped, nest, stops, beforeEnd ts, whole, spelled⟩
    exact ⟨rest, complete_eq_ok.2 ⟨reads_iff_conforms.2 conforms, ends⟩⟩

end Grammar

/-- A parse returns a tree exactly if the tree is canonical, nests within the limit, and
is spelled by the tokens in front of the end of the input. -/
theorem parse_eq_ok_iff (ts : List Token) (e : Expr) :
    parse ts = .ok e ↔
      e.Canonical ∧ e.nest ≤ Grammar.maxDepth ∧ e.SpelledBy (Grammar.beforeEnd ts) := by
  rw [parse_eq_ok]
  exact Grammar.complete_eq_ok_iff

end LoxExpr
