import LoxExpr.Number.Decimal
import LoxExpr.Proofs.Number.Rounding

/-!
# Reading numbers back

The plain text of a number is a numeral that denotes the number.  It consists of the digits
of the shortest decimal, with zeros up to the point or behind it, and this decimal is rounded
to the number.

Main results:

- Theorem `Decimal.ofNumeral_positional`: the text of a decimal denotes the number nearest to
  it.
- Theorem `ofNumeral_plainText`: the text of a finite number denotes the number.
- Theorem `Unsigned.ofText_plainText`: the text of a number without a sign reads back as the
  number.
- Theorem `unsigned_ofNumeral`: what a numeral denotes has no sign.
-/

namespace LoxExpr

/-! ## Positional texts -/

namespace Decimal

/-- What stands above the line if a decimal is written as a quotient. -/
def numerator (d : Decimal) : Nat :=
  d.coefficient * Nat.pow 10 d.exponent.toNat

/-- What stands below the line. -/
def denominator (d : Decimal) : Nat :=
  Nat.pow 10 (-d.exponent).toNat

/-- A decimal on a grid, in units of the last grid. -/
theorem numerator_mul {d : Decimal} {power places : Nat}
    (grid : d.exponent = power - (places : Int)) :
    4 * d.numerator * 10 ^ places = d.denominator * (d.coefficient * (4 * Nat.pow 10 power)) := by
  have balance : d.exponent.toNat + places = (-d.exponent).toNat + power := by omega
  calc
    4 * d.numerator * 10 ^ places =
        4 * d.coefficient * 10 ^ (d.exponent.toNat + places) := by
      rw [numerator, Nat.pow_eq, Nat.pow_add]
      ring
    _ = d.denominator * (d.coefficient * (4 * Nat.pow 10 power)) := by
      rw [balance, denominator, Nat.pow_eq, Nat.pow_eq, Nat.pow_add]
      ring

/-- A positional text in two parts: the digits in front of the point and those behind it, if
there is a point. -/
structure Parts (d : Decimal) (whole fraction : List Char) : Prop where
  digits : ∀ c ∈ whole ++ fraction, c.isDigit = true
  whole_ne_nil : whole ≠ []
  text : d.positional = whole ++ if fraction = [] then [] else '.' :: fraction
  value : Binary64.digitsValue (whole ++ fraction) = d.numerator
  places : Nat.pow 10 fraction.length = d.denominator

/-- The digits of the coefficient have its value. -/
theorem digitsValue_digits (d : Decimal) : Binary64.digitsValue d.digits = d.coefficient :=
  Nat.ofDigitChars_toDigits (by decide) (by decide)

/-- Zeros in front of digits do not change their value. -/
theorem digitsValue_replicate_append (zeros : Nat) (digits : List Char) :
    Binary64.digitsValue (List.replicate zeros '0' ++ digits) = Binary64.digitsValue digits := by
  show Nat.ofDigitChars 10 _ 0 = Nat.ofDigitChars 10 _ 0
  rw [Nat.ofDigitChars_append, Nat.ofDigitChars_replicate_zero, Nat.mul_zero]

/-- Zeros behind digits multiply their value by powers of ten. -/
theorem digitsValue_append_replicate (digits : List Char) (zeros : Nat) :
    Binary64.digitsValue (digits ++ List.replicate zeros '0') =
      Binary64.digitsValue digits * Nat.pow 10 zeros := by
  show Nat.ofDigitChars 10 _ 0 = Nat.ofDigitChars 10 _ 0 * _
  rw [Nat.ofDigitChars_append, Nat.ofDigitChars_replicate_zero, Nat.mul_comm, Nat.pow_eq]

/-- The digits of the coefficient, with zeros on either side, are digits. -/
theorem isDigit_of_mem_padded (d : Decimal) (front back : Nat) {c : Char}
    (member : c ∈ List.replicate front '0' ++ d.digits ++ List.replicate back '0') :
    c.isDigit = true := by
  simp only [List.mem_append, List.mem_replicate] at member
  rcases member with (⟨_, rfl⟩ | inside) | ⟨_, rfl⟩
  · rfl
  · exact Nat.isDigit_of_mem_toDigits (by decide) (by decide) inside
  · rfl

/-- Every decimal is written in two such parts. -/
theorem exists_parts (d : Decimal) : ∃ whole fraction, d.Parts whole fraction := by
  have hpos : 0 < d.digits.length := Nat.length_toDigits_pos
  cases sign : d.exponent with
  | ofNat zeros =>
    refine ⟨d.digits ++ List.replicate zeros '0', [], ?_, ?_, ?_, ?_, ?_⟩
    · intro c member
      exact isDigit_of_mem_padded d 0 zeros (by simpa using member)
    · exact List.append_ne_nil_of_left_ne_nil (List.ne_nil_of_length_pos hpos) _
    · simp [positional, sign]
    · rw [List.append_nil, digitsValue_append_replicate, digitsValue_digits, numerator, sign]
      rfl
    · simp [denominator, sign]
  | negSucc n =>
    let padded := List.replicate (n + 2 - d.digits.length) '0' ++ d.digits
    have length : n + 2 ≤ padded.length := by
      simp only [padded, List.length_append, List.length_replicate]
      omega
    let whole := padded.length - (n + 1)
    have behind : (padded.drop whole).length = n + 1 := by
      rw [List.length_drop]
      omega
    refine ⟨padded.take whole, padded.drop whole, ?_, ?_, ?_, ?_, ?_⟩
    · intro c member
      rw [List.take_append_drop] at member
      exact isDigit_of_mem_padded d _ 0 (by simpa [padded] using member)
    · apply List.ne_nil_of_length_pos
      rw [List.length_take]
      omega
    · rw [if_neg (List.ne_nil_of_length_pos (by omega)), positional, sign]
    · rw [List.take_append_drop, digitsValue_replicate_append, digitsValue_digits, numerator, sign]
      simp
    · rw [behind, denominator, sign]
      rfl

/-- A digit is no point. -/
theorem ne_point_of_isDigit {c : Char} (digit : c.isDigit = true) : c ≠ '.' := by
  rintro rfl
  contradiction

/-- The text of a decimal denotes the number nearest to the decimal. -/
theorem ofNumeral_positional (d : Decimal) :
    Binary64.ofNumeral d.positional = Binary64.nearest d.numerator d.denominator := by
  rcases d.exists_parts with ⟨whole, fraction, parts⟩
  have before : ∀ c ∈ whole, (c != '.') = true := fun c member =>
    bne_iff_ne.2 (ne_point_of_isDigit (parts.digits c (List.mem_append_left _ member)))
  have taken : d.positional.takeWhile (· != '.') = whole := by
    rw [parts.text, List.takeWhile_append_of_pos before]
    split <;> simp
  have dropped : (d.positional.dropWhile (· != '.')).drop 1 = fraction := by
    rw [parts.text, List.dropWhile_append_of_pos before]
    split
    next hnone => rw [hnone]; rfl
    next => simp
  rw [Binary64.ofNumeral]
  simp only [taken, dropped, parts.value, parts.places]

end Decimal

namespace Binary64

/-- The text of a finite number without a sign. -/
theorem toList_plainText {x : Binary64} (unsigned : x.isNegative = false)
    (finite : x.magnitude < infiniteMagnitude) :
    x.plainText.toList = x.shortest.positional := by
  have number : x.isNaN = false := by simp [isNaN, Nat.le_of_lt finite]
  have bounded : x.isInfinite = false := by simp [isInfinite, Nat.ne_of_lt finite]
  simp [plainText, textBy, unsigned, number, bounded]

/-- The text of a finite number without a sign denotes the number. -/
theorem ofNumeral_plainText {x : Binary64} (unsigned : x.isNegative = false)
    (finite : x.magnitude < infiniteMagnitude) : ofNumeral x.plainText.toList = x := by
  rw [toList_plainText unsigned finite, Decimal.ofNumeral_positional]
  cases zero : x.isZero with
  | true =>
    have nothing : x.magnitude = 0 := by simpa [isZero] using zero
    have shortest : x.shortest = ⟨0, 0⟩ := by rw [shortest, if_pos zero]
    rw [shortest, ← ofMagnitude_magnitude unsigned, nothing]
    decide
  | false =>
    rcases contains_shortest zero with ⟨power, grid, inside⟩
    have positive : 0 < x.shortest.denominator := Nat.pow_pos (by decide)
    exact nearest_eq positive unsigned finite (significand_pos zero)
      (covers_of_contains positive inside (Decimal.numerator_mul grid))

/-- Whether a word is a number without a sign. -/
structure Unsigned (x : Binary64) : Prop where
  isNaN_eq_false : x.isNaN = false
  isNegative_eq_false : x.isNegative = false

/-- A number without a sign is finite, or it is infinity. -/
theorem Unsigned.finite_or_infinite {x : Binary64} (unsigned : x.Unsigned) :
    x.magnitude < infiniteMagnitude ∨ x.magnitude = infiniteMagnitude := by
  have number : x.magnitude ≤ infiniteMagnitude := by simpa [isNaN] using unsigned.isNaN_eq_false
  omega

/-- The text of a finite number begins with a digit, and there are only digits and a point
in it. -/
theorem Unsigned.plainText_finite {x : Binary64} (unsigned : x.Unsigned)
    (finite : x.magnitude < infiniteMagnitude) :
    (∃ c rest, x.plainText.toList = c :: rest ∧ c.isDigit = true) ∧
      ∀ c ∈ x.plainText.toList, c.isDigit = true ∨ c = '.' := by
  rw [toList_plainText unsigned.isNegative_eq_false finite]
  rcases x.shortest.exists_parts with ⟨whole, fraction, parts⟩
  rw [parts.text]
  constructor
  · rcases List.exists_cons_of_ne_nil parts.whole_ne_nil with ⟨c, rest, rfl⟩
    exact ⟨c, _, rfl, parts.digits c (by simp)⟩
  · intro c member
    have digits := parts.digits c
    split at member <;> simp at member digits <;> tauto

/-- Infinity has a text of its own. -/
theorem Unsigned.plainText_infinite {x : Binary64} (unsigned : x.Unsigned)
    (infinite : x.magnitude = infiniteMagnitude) : x.plainText = "inf" := by
  simp [plainText, textBy, unsigned.isNaN_eq_false, unsigned.isNegative_eq_false, isInfinite,
    infinite]

/-- The number that a text is the text of. -/
def ofText (text : String) : Binary64 :=
  if text = "inf" then ofMagnitude infiniteMagnitude else ofNumeral text.toList

/-- The text of a number without a sign reads back as the number. -/
theorem Unsigned.ofText_plainText {x : Binary64} (unsigned : x.Unsigned) :
    ofText x.plainText = x := by
  rcases unsigned.finite_or_infinite with finite | infinite
  · have notInfinity : x.plainText ≠ "inf" := by
      intro same
      rcases (unsigned.plainText_finite finite).1 with ⟨c, rest, text, digit⟩
      rw [same] at text
      cases text
      contradiction
    rw [ofText, if_neg notInfinity, ofNumeral_plainText unsigned.isNegative_eq_false finite]
  · rw [ofText, if_pos (unsigned.plainText_infinite infinite), ← infinite,
      ofMagnitude_magnitude unsigned.isNegative_eq_false]

/-- A word up to that of infinity is a number without a sign. -/
theorem unsigned_ofMagnitude {word : Nat} (bounded : word ≤ infiniteMagnitude) :
    (ofMagnitude word).Unsigned := by
  have bits : (ofMagnitude word).bits.toNat = word := by
    simp only [ofMagnitude, UInt64.toNat_ofNat']
    unfold infiniteMagnitude at bounded
    omega
  constructor
  · simp only [isNaN, magnitude, bits, decide_eq_false_iff_not]
    omega
  · simp only [isNegative, bits, decide_eq_false_iff_not]
    unfold infiniteMagnitude at bounded
    omega

/-- What a numeral denotes has no sign. -/
theorem unsigned_ofNumeral (text : List Char) : (ofNumeral text).Unsigned :=
  unsigned_ofMagnitude (Nat.min_le_right _ _)

end Binary64

end LoxExpr
