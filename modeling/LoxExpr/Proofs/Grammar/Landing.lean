import LoxExpr.Proofs.Grammar.Boundary
import LoxExpr.Proofs.Grammar.Conduct
import Mathlib.Order.Bounds.Defs

/-!
# Where recovery lands

Recovery passes the token at which it starts and then one token after the other, until it is
at a place where a statement can begin or the input ends.  It lands at the first such place
behind the one where it started, and it leaves nothing but its position behind: the answers to
all later calls are those of a session that came to this position in another way.

Main results:

- Theorem `Grammar.boundary_iff_resumable`: boundaries between tokens are places to resume at.
- Theorem `Session.isLeast_synchronize`: recovery lands at the least place to resume at behind
  its start.
- Theorem `Grammar.skips_of_isLeast`: passing one token after the other comes to the least
  place to resume at, and stops there.
- Theorem `Session.synchronize_lands`: what recovery does at any time of a session.
-/

namespace LoxExpr

namespace Grammar

/-! ## Places to resume at -/

/-- Whether the input ends or a statement can begin at a position: there is no token or an end,
a semicolon is in front of it, or a keyword there begins a statement. -/
def Resumable (ts : List Token) (i : Nat) : Prop :=
  (∀ t ∈ ts[i]?, t.isEnd = true) ∨ (∃ t ∈ ts[i - 1]?, t.mark? = some .semicolon) ∨
    ∃ t ∈ ts[i]?, t.startsStatement = true

/-- Tokens are at the end if the first of them, should there be one, is an end. -/
theorem atEnd_iff {ts : List Token} : atEnd ts = true ↔ ∀ t ∈ ts.head?, t.isEnd = true := by
  cases ts with
  | nil => exact iff_of_true rfl nofun
  | cons t rest => simp [atEnd]

/-- The tokens behind some others begin at the position that counts these. -/
theorem getElem?_length (front rest : List Token) :
    (front ++ rest)[front.length]? = rest.head? := by
  rw [List.getElem?_append_right (Nat.le_refl _), Nat.sub_self, List.head?_eq_getElem?]

/-- The last of some tokens is in front of the position that counts them. -/
theorem getElem?_pred_length {passed : List Token} (nonempty : passed ≠ [])
    (front rest : List Token) :
    (front ++ passed ++ rest)[(front ++ passed).length - 1]? = passed.getLast? := by
  have positive := List.length_pos_iff.2 nonempty
  rw [List.getElem?_append_left (by rw [List.length_append]; omega), ← List.getLast?_eq_getElem?,
    List.getLast?_append_of_ne_nil _ nonempty]

/-- A boundary behind some tokens is a place to resume at. -/
theorem boundary_iff_resumable {passed : List Token} (nonempty : passed ≠ [])
    (front rest : List Token) :
    Boundary passed rest ↔ Resumable (front ++ passed ++ rest) (front ++ passed).length := by
  rw [Boundary, Resumable, getElem?_length, getElem?_pred_length nonempty, atEnd_iff]

/-! ## The loop -/

/-- Passing one token after the other, from one position to another, until the input ends or a
statement can begin. -/
inductive Skips (ts : List Token) : Nat → Nat → Prop
  | stop {i} : Resumable ts i → Skips ts i i
  | pass {i j} : ¬Resumable ts i → Skips ts (i + 1) j → Skips ts i j

/-- Passing tokens comes to the least place to resume at, and stops there. -/
theorem skips_of_isLeast {ts : List Token} {i j : Nat}
    (least : IsLeast {k | i ≤ k ∧ Resumable ts k} j) : Skips ts i j := by
  rcases least with ⟨⟨le, lands⟩, lower⟩
  -- The tokens that are still to be passed become fewer.
  obtain ⟨n, rfl⟩ := Nat.exists_eq_add_of_le le
  induction n generalizing i with
  | zero => exact .stop lands
  | succ n ih =>
    have same : i + (n + 1) = i + 1 + n := by omega
    rw [same] at lands lower ⊢
    refine .pass (fun early => ?_) (ih (fun k inside => ?_) (Nat.le_add_right _ _) lands)
    · have : i + 1 + n ≤ i := lower ⟨Nat.le_refl i, early⟩
      omega
    · exact lower ⟨Nat.le_of_succ_le inside.1, inside.2⟩

/-- Passing tokens from one position comes to one position only. -/
theorem Skips.unique {ts : List Token} {i j k : Nat} (first : Skips ts i j)
    (second : Skips ts i k) : j = k := by
  induction first with
  | stop lands =>
    cases second with
    | stop => rfl
    | pass goes => exact absurd lands goes
  | pass goes _ ih =>
    cases second with
    | stop lands => exact absurd lands goes
    | pass _ later => exact ih later

end Grammar

/-! ## Recovery of a session -/

namespace Session

variable {s : Session}

/-- A session looks at the end exactly if there is no token at its position, or an end. -/
theorem isEnd_peek_iff (s : Session) :
    s.peek.isEnd = true ↔ ∀ t ∈ s.tokens[s.position]?, t.isEnd = true := by
  rw [isEnd_peek, Grammar.atEnd_iff, rest, List.head?_drop]

/-- In front of the end recovery moves nowhere. -/
theorem synchronize_of_isEnd (inside : s.Inside) (ends : s.peek.isEnd = true) :
    s.synchronize = s := by
  rw [isEnd_peek] at ends
  rw [synchronize, Grammar.recover_of_atEnd ends, moveTo_rest inside]

/-- Elsewhere recovery lands at the least place to resume at behind its start. -/
theorem isLeast_synchronize (inside : s.Inside) (more : s.peek.isEnd = false) :
    IsLeast {i | s.position + 1 ≤ i ∧ Grammar.Resumable s.tokens i} s.synchronize.position := by
  rw [isEnd_peek] at more
  rcases Grammar.recover_cases s.rest with ⟨ends, _⟩ | ⟨t, passed, _, whole, lands, first⟩
  · rw [more] at ends
    contradiction
  let front := s.tokens.take s.position
  have start : front.length = s.position := List.length_take_of_le inside
  have tokens : s.tokens = front ++ s.rest := (List.take_append_drop s.position s.tokens).symm
  have position : s.synchronize.position = s.position + 1 + passed.length := by
    have moved := position_moveTo whole inside
    rw [List.length_cons] at moved
    exact moved.trans (by omega)
  -- A place between the passed tokens is a place between tokens of the session.
  have places (earlier between : List Token) (divided : passed = earlier ++ between) :
      Grammar.Boundary (t :: earlier) (between ++ Grammar.recover s.rest) ↔
        Grammar.Resumable s.tokens (s.position + 1 + earlier.length) := by
    have parted : s.tokens = front ++ t :: earlier ++ (between ++ Grammar.recover s.rest) := by
      have lined : s.tokens = front ++ (t :: passed ++ Grammar.recover s.rest) :=
        tokens.trans (congrArg (front ++ ·) whole)
      simpa [divided] using lined
    have count : (front ++ t :: earlier).length = s.position + 1 + earlier.length := by
      rw [List.length_append, List.length_cons, start]
      omega
    rw [Grammar.boundary_iff_resumable (List.cons_ne_nil _ _) front, ← parted, count]
  rw [position]
  constructor
  · have here := (places passed [] (List.append_nil _).symm).1 lands
    exact ⟨Nat.le_add_right _ _, here⟩
  · rintro i ⟨behind, resumable⟩
    by_contra early
    obtain ⟨n, rfl⟩ := Nat.exists_eq_add_of_le behind
    have divided : passed = passed.take n ++ passed.drop n := (List.take_append_drop n passed).symm
    have count : (passed.take n).length = n := List.length_take_of_le (by omega)
    have more : passed.drop n ≠ [] := List.drop_eq_nil_iff.not.2 (by omega)
    apply first _ _ divided more
    rwa [places _ _ divided, count]

/-! ## Recovery at any time -/

/-- Sessions at the same position of the same tokens have the same outlook. -/
theorem outlook_eq_of_position {s s' : Session} (tokens : s'.tokens = s.tokens)
    (position : s'.position = s.position) : s'.outlook = s.outlook := by
  rcases s with ⟨ts, i, _⟩
  rcases s' with ⟨ts', i', _⟩
  obtain rfl : ts' = ts := tokens
  obtain rfl : i' = i := position
  rfl

/-- What recovery does to a session over some tokens.  In front of the end, or behind the last
token, it moves nowhere.  Elsewhere it passes one token after the other and lands at the least
place to resume at behind its start.  It reports nothing, and it has no influence on later
answers but by the position, to which any other session may have come in another way.  A walker
recovers in the same way and goes on counting from where it was. -/
structure Lands (ts : List Token) (s : Session) : Prop where
  stays : (∀ t ∈ ts[s.position]?, t.isEnd = true) → s.synchronize.position = s.position
  moves : (∃ t ∈ ts[s.position]?, t.isEnd = false) →
    IsLeast {i | s.position < i ∧ Grammar.Resumable ts i} s.synchronize.position
  terminates : (∃ t ∈ ts[s.position]?, t.isEnd = false) →
    ∀ i, Grammar.Skips ts (s.position + 1) i ↔ i = s.synchronize.position
  tokens : s.synchronize.tokens = ts
  reported : s.synchronize.reported = s.reported
  later : ∀ other : Session, other.tokens = ts → other.position = s.synchronize.position →
    ∀ calls, (other.run calls).1 = (s.synchronize.run calls).1 ∧
      (other.run calls).2.position = (s.synchronize.run calls).2.position
  counted : ∀ depth, ∃ skipped,
    Walk.synchronize ⟨s, depth⟩ = some (.ok skipped, ⟨s.synchronize, depth⟩)

/-- Whatever a session has been asked for since it started, recovery moves it to the next place
to resume at, unless it is in front of the end, and does nothing else. -/
theorem synchronize_lands (ts : List Token) (sink : List Diagnostic) (calls : List Call) :
    Lands ts ((startAfter sink ts).run calls).2 := by
  have start := inside_startAfter sink ts
  rcases run_outlook start calls with ⟨_, _, moved⟩
  have inside := moved.inside start
  have tokens : ((startAfter sink ts).run calls).2.tokens = ts := moved.tokens
  generalize ((startAfter sink ts).run calls).2 = s at *
  subst tokens
  have behind : (∃ t ∈ s.tokens[s.position]?, t.isEnd = false) →
      IsLeast {i | s.position + 1 ≤ i ∧ Grammar.Resumable s.tokens i} s.synchronize.position := by
    rintro ⟨t, here, notEnd⟩
    apply isLeast_synchronize inside
    apply Bool.eq_false_iff.2
    intro ends
    rw [isEnd_peek_iff] at ends
    simp [ends t here] at notEnd
  constructor
  case stays =>
    intro ends
    rw [synchronize_of_isEnd inside (s.isEnd_peek_iff.2 ends)]
  case moves => exact behind
  case terminates =>
    intro more i
    have lands := Grammar.skips_of_isLeast (behind more)
    constructor
    · exact fun other => other.unique lands
    · rintro rfl
      exact lands
  case tokens => rfl
  case reported => exact s.reported_synchronize
  case later =>
    intro other tokens position calls
    have insideNext := inside_answer inside .synchronize
    have insideOther : other.Inside := by
      rw [Inside, tokens, position]
      exact insideNext
    have outlook := outlook_eq_of_position (s := s.synchronize) tokens position
    rcases run_eq_of_outlook insideOther insideNext outlook position calls with ⟨answers, _, last⟩
    exact ⟨answers, last⟩
  case counted => exact fun depth => ⟨_, Walk.synchronize_apply inside depth⟩

end Session

end LoxExpr
