import PropertyGraph.Proofs.Number.Shortest
import PropertyGraph.Proofs.Value.Scalar

/-!
# Where a number shows a fraction

A number that is written out shows a point with a digit behind it, even if it is whole.  The numbers
below ten to the minus fourth and those from ten to the sixteenth on are not written out.  They have
an exponent, and a point only if they take more than one digit: ten to the sixteenth is written as
`1e16`, and the number after it as `1.0000000000000002e16`.

Neither bound can be read off the digits at once, because they are the digits of a decimal that is
only near the number.  Ten to the minus fourth is no number of sixty-four bits, and the number
nearest to it is greater; so no number below the bound is written with the digits of the bound.

* `ShowsFraction`, `Numeral.showsFraction_iff` — only the digits of a fraction stand behind a point;
* `Layout.fraction_numeral_ne_nil_iff` — which numerals have a fraction;
* `Binary64.neg_four_le_leading_iff`, `Binary64.leading_le_fifteen_iff` — the bounds in terms of the
  number itself;
* `Value.float_shows_fraction_iff` — which numbers show a fraction.
-/

namespace PropertyGraph

/-- A point with a digit behind it stands somewhere in the text. -/
def ShowsFraction (s : String) : Prop :=
  ∃ before d after, s.toList = before ++ '.' :: d :: after ∧ d.isDigit = true

/-! ## Numerals -/

/-- Only the fraction of a numeral has a point. -/
theorem Numeral.showsFraction_iff (n : Numeral) :
    ShowsFraction (String.ofList (n.chars false)) ↔ n.fraction ≠ [] := by
  unfold ShowsFraction
  rw [String.toList_ofList]
  constructor
  · rintro ⟨before, d, after, hchars, -⟩ hnone
    have hpoint : '.' ∈ n.chars false := by
      rw [hchars]
      simp
    have hothers : DigitsOr ['-', 'e'] (n.chars false) := by
      unfold chars
      rw [hnone, fractionChars, List.nil_append]
      refine .append (.of_mem ?_) ((digitsOr_toDigits _ _).append (digitsOr_exponentChars _))
      split <;> simp
    exact hothers.not_mem (by decide) (by decide) hpoint
  · intro hsome
    obtain ⟨d, ds, hfraction⟩ := List.exists_cons_of_ne_nil hsome
    refine ⟨(if n.negative then ['-'] else []) ++ Nat.toDigits 10 n.whole, d.toChar,
      ds.map Digit.toChar ++ exponentChars false n.exponent, ?_, Digit.isDigit_toChar d⟩
    simp [chars, hfraction, fractionChars]

namespace Layout

theorem fraction_positional_ne_nil {l : Layout} (h : l.keepsPoint = true) (negative : Bool)
    (d : Decimal) : (l.positional negative d).fraction ≠ [] := by
  have hexponent : (l.positional negative d).exponent = none := by
    unfold positional
    split <;> rfl
  have hwhole := isWhole_positional h negative d
  rw [Numeral.isWhole, hexponent, Option.isNone_none, Bool.and_true] at hwhole
  intro hnone
  rw [hnone] at hwhole
  cases hwhole

/-- With an exponent only the digits behind the first one are a fraction. -/
theorem fraction_scientific_ne_nil_iff (negative : Bool) (d : Decimal) :
    (scientific negative d).fraction ≠ [] ↔ 2 ≤ digitCount d.digits := by
  rw [scientific, ← List.length_pos_iff, length_lowDigits]
  omega

/-- A number has a fraction if it is written out, or if its shortest decimal has several digits. -/
theorem fraction_numeral_ne_nil_iff {l : Layout} (hpoint : l.keepsPoint = true)
    {least greatest : Int} (hbounds : l.writtenOut = some (least, greatest)) (x : Binary64) :
    (l.numeral x).fraction ≠ [] ↔
      (x.shortest l.tie).digits = 0 ∨
        (least ≤ (x.shortest l.tie).leading ∧ (x.shortest l.tie).leading ≤ greatest) ∨
        2 ≤ digitCount (x.shortest l.tie).digits := by
  unfold numeral
  rw [hbounds]
  dsimp only
  split
  · rename_i hwritten
    exact iff_of_true (fraction_positional_ne_nil hpoint _ _) (or_assoc.1 (.inl hwritten))
  · rename_i hexponent
    rw [fraction_scientific_ne_nil_iff, ← or_assoc]
    exact (or_iff_right hexponent).symm

end Layout

/-! ## The bounds of the numbers that are written out -/

theorem one_lt_digitCount_iff (n : Nat) : 1 < digitCount n ↔ 10 ≤ n := by
  rw [← not_le, digitCount_le_iff n one_pos]
  omega

namespace Binary64

variable {x : Binary64}

theorem isZero_iff (x : Binary64) : x.isZero = true ↔ x.significand = 0 := by
  have htwo : twoTo 52 = 2 ^ 52 := rfl
  rw [isZero, Bool.and_eq_true, beq_iff_eq, beq_iff_eq]
  unfold significand
  split <;> omega

/-- The number nearest to ten to the minus fourth. -/
def tenToMinusFour : Binary64 := ⟨0x3F1A36E2EB1C432D⟩

theorem magnitude_tenToMinusFour : tenToMinusFour.magnitude = 7378697629483821 / 2 ^ 66 := by
  have hsignificand : tenToMinusFour.significand = 7378697629483821 := by decide
  have hscale : tenToMinusFour.scale = -66 := by decide
  rw [magnitude, hsignificand, hscale]
  norm_num

theorem gapBelow_tenToMinusFour : tenToMinusFour.gapBelow = 1 / 2 ^ 66 := by
  have hscale : tenToMinusFour.scale = -66 := by decide
  rw [gapBelow, if_neg (by decide), hscale]
  norm_num

/-- The number ten to the sixteenth. -/
def tenToSixteen : Binary64 := ⟨0x4341C37937E08000⟩

theorem magnitude_tenToSixteen : tenToSixteen.magnitude = 10 ^ 16 := by
  have hsignificand : tenToSixteen.significand = 5000000000000000 := by decide
  have hscale : tenToSixteen.scale = 1 := by decide
  rw [magnitude, hsignificand, hscale]
  norm_num

theorem neg_four_le_leading_iff (tie : Tie) (hx : x.isFinite = true) (hzero : x.significand ≠ 0) :
    -4 ≤ (shortest tie x).leading ↔ (10 : ℚ) ^ (-4 : Int) ≤ x.magnitude := by
  have habove : (10 : ℚ) ^ (-4 : Int) ≤ tenToMinusFour.magnitude := by
    rw [magnitude_tenToMinusFour]
    norm_num
  have hbelow : tenToMinusFour.midpointBelow < 10 ^ (-4 : Int) := by
    rw [midpointBelow, magnitude_tenToMinusFour, gapBelow_tenToMinusFour]
    norm_num
  exact le_leading_shortest_iff tie hx hzero (by decide) habove hbelow

theorem leading_le_fifteen_iff (tie : Tie) (hx : x.isFinite = true) (hzero : x.significand ≠ 0) :
    (shortest tie x).leading ≤ 15 ↔ x.magnitude < 10 ^ 16 := by
  have hexact : (10 : ℚ) ^ (16 : Int) = tenToSixteen.magnitude := by
    rw [magnitude_tenToSixteen]
    norm_num
  have hbelow : tenToSixteen.midpointBelow < 10 ^ (16 : Int) := by
    have hgap := tenToSixteen.gapBelow_pos
    rw [midpointBelow, hexact]
    linarith
  have hnext := le_leading_shortest_iff tie hx hzero (by decide) hexact.le hbelow
  rw [hexact, magnitude_tenToSixteen] at hnext
  rw [← not_le, ← hnext]
  omega

end Binary64

/-! ## Numbers -/

namespace Value

open Binary64

/-- **A finite number shows a fraction iff it is zero, or lies between ten to the minus fourth and
ten to the sixteenth, or is nearest to no decimal of one digit.** -/
theorem float_shows_fraction_iff {x : Binary64} (hx : x.isFinite = true) :
    ShowsFraction (Value.float x).text ↔
      x.isZero = true ∨ ((10 : ℚ) ^ (-4 : Int) ≤ x.magnitude ∧ x.magnitude < 10 ^ 16) ∨
        ∀ d : Decimal, x.IsNearestTo d.magnitude → 10 ≤ d.digits := by
  have htext : (Value.float x).text = String.ofList ((textLayout.numeral x).chars false) := by
    rw [text, Layout.chars, if_pos hx]
    rfl
  have hbounds : textLayout.writtenOut = some (-4, 15) := rfl
  rw [htext, Numeral.showsFraction_iff, Layout.fraction_numeral_ne_nil_iff rfl hbounds, isZero_iff]
  by_cases hzero : x.significand = 0
  · have hdigits : (shortest textLayout.tie x).digits = 0 := by rw [shortest, if_pos hzero]
    exact iff_of_true (.inl hdigits) (.inl hzero)
  · have hdigits := digits_shortest_ne_zero textLayout.tie hzero
    have hseveral : 2 ≤ digitCount (shortest textLayout.tie x).digits ↔
        ∀ d : Decimal, x.IsNearestTo d.magnitude → 10 ≤ d.digits := by
      simp only [← one_lt_digitCount_iff]
      exact lt_digitCount_shortest_iff textLayout.tie hx 1
    rw [or_iff_right hdigits, or_iff_right hzero, neg_four_le_leading_iff _ hx hzero,
      leading_le_fifteen_iff _ hx hzero, hseveral]

/-- Ten to the minus fourth is written out, and ten to the sixteenth is not; one digit is enough for
either. -/
theorem fractions_of_powers_of_ten :
    (Value.float tenToMinusFour).text = "0.0001" ∧
      ShowsFraction (Value.float tenToMinusFour).text ∧
      (Value.float tenToSixteen).text = "1e16" ∧
      ¬ ShowsFraction (Value.float tenToSixteen).text := by
  refine ⟨by decide +kernel, ?_, by decide +kernel, ?_⟩
  · rw [float_shows_fraction_iff (by decide), magnitude_tenToMinusFour]
    exact .inr (.inl ⟨by norm_num, by norm_num⟩)
  · rw [float_shows_fraction_iff (by decide), magnitude_tenToSixteen]
    rintro (hzero | ⟨-, hless⟩ | hdigits)
    · revert hzero
      decide
    · exact hless.false
    · have hone : (⟨1, 16⟩ : Decimal).magnitude = tenToSixteen.magnitude := by
        rw [magnitude_tenToSixteen, Decimal.magnitude]
        norm_num
      exact absurd (hdigits ⟨1, 16⟩ (hone ▸ isNearestTo_magnitude tenToSixteen)) (by decide)

end Value

end PropertyGraph
