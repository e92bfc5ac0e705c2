import Mathlib.Algebra.Order.Field.Power
import Mathlib.Tactic.Linarith
import Mathlib.Tactic.LinearCombination
import Mathlib.Tactic.NormNum
import Mathlib.Tactic.Positivity
import Mathlib.Tactic.Ring
import PropertyGraph.Number.Shortest

/-!
# The number nearest to a magnitude

The magnitudes of the numbers of sixty-four bits stand in a row, and the word of a number is its
place in that row.  From one to the next it is as far as the scale says; only where the scale
changes, at a power of two, the one before is half as far away as the one after.

So a rational number is rounded to a number iff it lies between the midpoints towards the two
neighbours of it, and this is how reading back is decided.  A midpoint is as near to the one as to
the other, and the one with the even significand has it.

* `Binary64.IsNearestTo` — a rational number is rounded to a number;
* `Binary64.magnitude_add_gapAbove_le`, `Binary64.magnitude_le_sub_gapBelow` — nothing comes between
  two neighbours;
* `Binary64.exists_above`, `Binary64.exists_below` — and both are there;
* `Binary64.isNearestTo_iff_covers` — what is rounded to a number lies in the interval around it.
-/

namespace PropertyGraph

namespace Binary64

/-! ## Magnitudes -/

/-- The magnitude of a number.  That of an infinity is the power of two that would come next. -/
def magnitude (x : Binary64) : ℚ := x.significand * 2 ^ x.scale

/-- The number that `q` is rounded to: the magnitude of every other number is farther away from `q`,
or it is as far away and the significand of this number is even. -/
def IsNearestTo (x : Binary64) (q : ℚ) : Prop :=
  ∀ y : Binary64, y.isNaN = false → y.magnitude ≠ x.magnitude →
    |q - x.magnitude| < |q - y.magnitude| ∨
      (|q - x.magnitude| = |q - y.magnitude| ∧ x.significand % 2 = 0)

/-- The place of a magnitude in the row of all of them. -/
def rank (x : Binary64) : Nat := x.exponentBits * 2 ^ 52 + x.fractionBits

theorem exponentBits_lt (x : Binary64) : x.exponentBits < 2 ^ 11 := Nat.mod_lt _ (by decide)

theorem fractionBits_lt (x : Binary64) : x.fractionBits < 2 ^ 52 := Nat.mod_lt _ (by decide)

theorem significand_cases (x : Binary64) :
    (x.exponentBits = 0 ∧ x.significand = x.fractionBits ∧ x.scale = -1074) ∨
      (0 < x.exponentBits ∧ x.significand = 2 ^ 52 + x.fractionBits ∧
        x.scale = x.exponentBits - 1075) := by
  have htwo : twoTo 52 = 2 ^ 52 := rfl
  unfold significand scale
  split
  · rename_i hzero
    left
    omega
  · rename_i hpos
    right
    omega

/-- The number with given fields. -/
def ofFields (exponent fraction : Nat) : Binary64 :=
  ⟨UInt64.ofNat (exponent * 2 ^ 52 + fraction)⟩

theorem ofFields_fields {e f : Nat} (he : e < 2 ^ 11) (hf : f < 2 ^ 52) :
    (ofFields e f).exponentBits = e ∧ (ofFields e f).fractionBits = f := by
  have hfraction : twoTo 52 = 2 ^ 52 := rfl
  have hexponent : twoTo 11 = 2 ^ 11 := rfl
  have hword : (ofFields e f).word.toNat = e * 2 ^ 52 + f := by
    have hlt : e * 2 ^ 52 + f < 2 ^ 64 := by omega
    exact UInt64.toNat_ofNat_of_lt' hlt
  unfold exponentBits fractionBits
  rw [hword, hfraction, hexponent]
  omega

/-- The two ways in which a magnitude can come after another one. -/
theorem scale_cases_of_rank_lt {x y : Binary64} (h : x.rank < y.rank) :
    (x.scale = y.scale ∧ x.significand < y.significand ∧
        ¬ (y.fractionBits = 0 ∧ 1 < y.exponentBits)) ∨
      (x.scale < y.scale ∧ x.significand < 2 ^ 53 ∧ 1 < y.exponentBits ∧
        y.significand = 2 ^ 52 + y.fractionBits) := by
  have hx := x.fractionBits_lt
  have hy := y.fractionBits_lt
  unfold rank at h
  rcases x.significand_cases with ⟨hex, hsx, hkx⟩ | ⟨hex, hsx, hkx⟩ <;>
    rcases y.significand_cases with ⟨hey, hsy, hky⟩ | ⟨hey, hsy, hky⟩ <;> omega

theorem magnitude_eq_of_rank_eq {x y : Binary64} (h : x.rank = y.rank) :
    x.magnitude = y.magnitude := by
  have hx := x.fractionBits_lt
  have hy := y.fractionBits_lt
  unfold rank at h
  have hexponent : x.exponentBits = y.exponentBits := by omega
  have hfraction : x.fractionBits = y.fractionBits := by omega
  simp only [magnitude, significand, scale, hexponent, hfraction]

theorem mul_zpow_le {m n : Nat} {j k : Int} (hmn : m ≤ n) (hjk : j ≤ k) :
    (m : ℚ) * 2 ^ j ≤ n * 2 ^ k := by
  have hpower : (2 : ℚ) ^ j ≤ 2 ^ k := zpow_le_zpow_right₀ (by norm_num) hjk
  have hcast : (m : ℚ) ≤ n := by exact_mod_cast hmn
  gcongr

/-- The distance from a magnitude to the next one. -/
def gapAbove (x : Binary64) : ℚ := 2 ^ x.scale

/-- The distance from a magnitude to the one before it, which is half as far away if a power of two
is where the scale changes. -/
def gapBelow (x : Binary64) : ℚ :=
  if x.fractionBits = 0 ∧ 1 < x.exponentBits then 2 ^ x.scale / 2 else 2 ^ x.scale

theorem gapAbove_pos (x : Binary64) : 0 < x.gapAbove := by
  unfold gapAbove
  positivity

theorem gapBelow_pos (x : Binary64) : 0 < x.gapBelow := by
  unfold gapBelow
  split <;> positivity

theorem gapBelow_le_gapAbove (x : Binary64) : x.gapBelow ≤ x.gapAbove := by
  have hpos : (0 : ℚ) < 2 ^ x.scale := by positivity
  unfold gapBelow gapAbove
  split
  · exact half_le_self hpos.le
  · exact le_rfl

theorem magnitude_add_gapAbove_le {x y : Binary64} (h : x.rank < y.rank) :
    x.magnitude + x.gapAbove ≤ y.magnitude := by
  have hnext : x.magnitude + x.gapAbove = ((x.significand + 1 : Nat) : ℚ) * 2 ^ x.scale := by
    unfold magnitude gapAbove
    push_cast
    ring
  rw [hnext]
  rcases scale_cases_of_rank_lt h with ⟨hscale, hlt, -⟩ | ⟨hscale, hx, -, hy⟩
  · exact mul_zpow_le hlt hscale.le
  · calc ((x.significand + 1 : Nat) : ℚ) * 2 ^ x.scale
        ≤ ((2 ^ 53 : Nat) : ℚ) * 2 ^ x.scale := mul_zpow_le hx le_rfl
      _ = ((2 ^ 52 : Nat) : ℚ) * 2 ^ (x.scale + 1) := by
        rw [zpow_add_one₀ (by norm_num)]
        push_cast
        ring
      _ ≤ y.significand * 2 ^ y.scale := mul_zpow_le (by omega) hscale

theorem magnitude_le_sub_gapBelow {x y : Binary64} (h : x.rank < y.rank) :
    x.magnitude ≤ y.magnitude - y.gapBelow := by
  rcases scale_cases_of_rank_lt h with ⟨hscale, hlt, hfields⟩ | ⟨hscale, hx, hexponent, hy⟩
  · have hgap : y.gapBelow = x.gapAbove := by
      unfold gapBelow gapAbove
      rw [if_neg hfields, hscale]
    rw [hgap]
    linarith [magnitude_add_gapAbove_le h]
  · have hpower : (2 : ℚ) ^ y.scale = 2 ^ (y.scale - 1) * 2 := by
      rw [← zpow_add_one₀ (by norm_num), sub_add_cancel]
    have hpos : (0 : ℚ) < 2 ^ (y.scale - 1) := by positivity
    have hmagnitude : x.magnitude ≤ ((2 ^ 53 - 1 : Nat) : ℚ) * 2 ^ (y.scale - 1) :=
      mul_zpow_le (by omega) (by omega)
    have hcast : ((2 ^ 53 - 1 : Nat) : ℚ) = 2 * 2 ^ 52 - 1 := by norm_num
    rw [hcast] at hmagnitude
    unfold gapBelow
    split
    · rename_i hfields
      have hsignificand : (y.significand : ℚ) = 2 ^ 52 := by
        rw [hy, hfields.1]
        norm_num
      have hy : y.magnitude = 2 ^ 52 * (2 ^ (y.scale - 1) * 2) := by
        rw [magnitude, hsignificand, hpower]
      linarith
    · rename_i hfields
      have hsignificand : (2 : ℚ) ^ 52 + 1 ≤ y.significand := by
        have hle : 2 ^ 52 + 1 ≤ y.significand := by omega
        exact_mod_cast hle
      have hy : (2 ^ 52 + 1) * (2 ^ (y.scale - 1) * 2) ≤ y.magnitude := by
        rw [magnitude, hpower]
        gcongr
      linarith

/-! ## Neighbours -/

theorem isNaN_ofFields {e f : Nat} (he : e < 2 ^ 11) (hf : f < 2 ^ 52) (h : e < 2047 ∨ f = 0) :
    (ofFields e f).isNaN = false := by
  obtain ⟨hexponent, hfraction⟩ := ofFields_fields he hf
  rw [isNaN, hexponent, hfraction]
  rcases h with hlt | hzero
  · have hne : e ≠ 2047 := by omega
    simp [hne]
  · simp [hzero]

/-- After every finite magnitude comes another one. -/
theorem exists_above {x : Binary64} (hx : x.isFinite = true) :
    ∃ y : Binary64, y.isNaN = false ∧ y.magnitude = x.magnitude + x.gapAbove := by
  have hexponent := x.exponentBits_lt
  have hfraction := x.fractionBits_lt
  have hfinite : x.exponentBits ≠ 2047 := by simpa [isFinite] using hx
  -- The significand counts on, or it is full and the scale changes.
  have hnext : ∃ y : Binary64, y.isNaN = false ∧
      ((y.scale = x.scale ∧ y.significand = x.significand + 1) ∨
        (y.scale = x.scale + 1 ∧ 2 * y.significand = x.significand + 1)) := by
    by_cases hfull : x.fractionBits + 1 < 2 ^ 52
    · obtain ⟨he, hf⟩ := ofFields_fields hexponent hfull
      refine ⟨_, isNaN_ofFields hexponent hfull (by omega), .inl ?_⟩
      have hy := (ofFields x.exponentBits (x.fractionBits + 1)).significand_cases
      have hx := x.significand_cases
      omega
    · have hexponent : x.exponentBits + 1 < 2 ^ 11 := by omega
      obtain ⟨he, hf⟩ := ofFields_fields hexponent (f := 0) (by norm_num)
      refine ⟨_, isNaN_ofFields hexponent (f := 0) (by norm_num) (.inr rfl), ?_⟩
      have hy := (ofFields (x.exponentBits + 1) 0).significand_cases
      have hx := x.significand_cases
      omega
  obtain ⟨y, hy, ⟨hscale, hsignificand⟩ | ⟨hscale, hsignificand⟩⟩ := hnext
  · refine ⟨y, hy, ?_⟩
    unfold magnitude gapAbove
    rw [hscale, hsignificand]
    push_cast
    ring
  · refine ⟨y, hy, ?_⟩
    have hcast : (2 : ℚ) * y.significand = x.significand + 1 := by exact_mod_cast hsignificand
    unfold magnitude gapAbove
    rw [hscale, zpow_add_one₀ (by norm_num)]
    linear_combination 2 ^ x.scale * hcast

/-- Before every magnitude but zero comes another one. -/
theorem exists_below {x : Binary64} (hx : x.isFinite = true) (hzero : x.significand ≠ 0) :
    ∃ y : Binary64, y.isNaN = false ∧ y.magnitude = x.magnitude - x.gapBelow := by
  have hexponent := x.exponentBits_lt
  have hfraction := x.fractionBits_lt
  have hfinite : x.exponentBits ≠ 2047 := by simpa [isFinite] using hx
  -- The significand counts back, or it is the least one of its scale.
  have hprevious : ∃ y : Binary64, y.isNaN = false ∧
      ((¬ (x.fractionBits = 0 ∧ 1 < x.exponentBits) ∧ y.scale = x.scale ∧
          y.significand + 1 = x.significand) ∨
        ((x.fractionBits = 0 ∧ 1 < x.exponentBits) ∧ y.scale = x.scale - 1 ∧
          y.significand + 1 = 2 * x.significand)) := by
    by_cases hleast : x.fractionBits = 0
    · have hfull : 2 ^ 52 - 1 < 2 ^ 52 := by norm_num
      have hexponent : x.exponentBits - 1 < 2 ^ 11 := by omega
      obtain ⟨he, hf⟩ := ofFields_fields hexponent hfull
      have hx := x.significand_cases
      refine ⟨_, isNaN_ofFields hexponent hfull (by omega), ?_⟩
      have hy := (ofFields (x.exponentBits - 1) (2 ^ 52 - 1)).significand_cases
      omega
    · have hfraction : x.fractionBits - 1 < 2 ^ 52 := by omega
      obtain ⟨he, hf⟩ := ofFields_fields hexponent hfraction
      refine ⟨_, isNaN_ofFields hexponent hfraction (by omega), .inl ?_⟩
      have hy := (ofFields x.exponentBits (x.fractionBits - 1)).significand_cases
      have hx := x.significand_cases
      omega
  obtain ⟨y, hy, ⟨hfields, hscale, hsignificand⟩ | ⟨hfields, hscale, hsignificand⟩⟩ := hprevious
  · refine ⟨y, hy, ?_⟩
    have hcast : (y.significand : ℚ) + 1 = x.significand := by exact_mod_cast hsignificand
    unfold magnitude gapBelow
    rw [if_neg hfields, hscale]
    linear_combination 2 ^ x.scale * hcast
  · refine ⟨y, hy, ?_⟩
    have hcast : (y.significand : ℚ) + 1 = 2 * x.significand := by exact_mod_cast hsignificand
    unfold magnitude gapBelow
    rw [if_pos hfields, hscale, zpow_sub_one₀ (by norm_num)]
    linear_combination 2 ^ x.scale / 2 * hcast

/-! ## The interval around a number -/

/-- The midpoint towards the next magnitude. -/
def midpointAbove (x : Binary64) : ℚ := x.magnitude + x.gapAbove / 2

/-- The midpoint towards the magnitude before. -/
def midpointBelow (x : Binary64) : ℚ := x.magnitude - x.gapBelow / 2

theorem midpointAbove_le {x y : Binary64} (h : x.rank < y.rank) :
    x.midpointAbove ≤ (x.magnitude + y.magnitude) / 2 := by
  have hgap := magnitude_add_gapAbove_le h
  unfold midpointAbove
  linarith

theorem le_midpointBelow {x y : Binary64} (h : x.rank < y.rank) :
    (y.magnitude + x.magnitude) / 2 ≤ y.midpointBelow := by
  have hgap := magnitude_le_sub_gapBelow h
  unfold midpointBelow
  linarith

/-- `q` lies between the midpoints around a number.  The midpoints themselves belong to the
interval iff the significand is even. -/
structure Covers (x : Binary64) (q : ℚ) : Prop where
  below : x.midpointBelow < q ∨ (x.midpointBelow = q ∧ x.significand % 2 = 0)
  above : q < x.midpointAbove ∨ (q = x.midpointAbove ∧ x.significand % 2 = 0)

theorem covers_magnitude (x : Binary64) : x.Covers x.magnitude where
  below := .inl (sub_lt_self _ (half_pos x.gapBelow_pos))
  above := .inl (lt_add_of_pos_right _ (half_pos x.gapAbove_pos))

/-- What lies between two covered magnitudes is covered. -/
theorem Covers.between {x : Binary64} {a b c : ℚ} (ha : x.Covers a) (hc : x.Covers c) (hab : a ≤ b)
    (hbc : b ≤ c) : x.Covers b where
  below := by
    rcases hab.lt_or_eq with hlt | rfl
    · rcases ha.below with h | h
      · exact .inl (h.trans hlt)
      · exact .inl (h.1 ▸ hlt)
    · exact ha.below
  above := by
    rcases hbc.lt_or_eq with hlt | rfl
    · rcases hc.above with h | h
      · exact .inl (hlt.trans h)
      · exact .inl (h.1 ▸ hlt)
    · exact hc.above

theorem sq_sub_sub_sq_sub (q a b : ℚ) :
    (q - b) ^ 2 - (q - a) ^ 2 = 2 * (b - a) * ((a + b) / 2 - q) := by ring

/-- Which of two magnitudes is nearer depends on the side of their midpoint. -/
theorem abs_sub_lt_iff_of_lt {q a b : ℚ} (h : a < b) : |q - a| < |q - b| ↔ q < (a + b) / 2 := by
  have hpos : 0 < 2 * (b - a) := by linarith
  rw [← sq_lt_sq, ← sub_pos, sq_sub_sub_sq_sub, mul_pos_iff_of_pos_left hpos, sub_pos]

theorem abs_sub_lt_iff_of_gt {q a b : ℚ} (h : b < a) : |q - a| < |q - b| ↔ (a + b) / 2 < q := by
  have hpos : 0 < -(2 * (b - a)) := by linarith
  rw [← sq_lt_sq, ← sub_pos, sq_sub_sub_sq_sub, ← neg_mul_neg, mul_pos_iff_of_pos_left hpos,
    neg_sub, sub_pos]

theorem abs_sub_eq_iff {q a b : ℚ} (h : a ≠ b) : |q - a| = |q - b| ↔ q = (a + b) / 2 := by
  have hne : 2 * (b - a) ≠ 0 := mul_ne_zero two_ne_zero (sub_ne_zero.2 (Ne.symm h))
  rw [← sq_eq_sq_iff_abs_eq_abs, eq_comm, ← sub_eq_zero, sq_sub_sub_sq_sub, mul_eq_zero,
    or_iff_right hne, sub_eq_zero, eq_comm]

/-- **What is rounded to a number lies in the interval around it**, and nothing else does. -/
theorem isNearestTo_iff_covers {x : Binary64} (hx : x.isFinite = true) (hzero : x.significand ≠ 0)
    {q : ℚ} : x.IsNearestTo q ↔ x.Covers q := by
  have habove := x.gapAbove_pos
  have hbelow := x.gapBelow_pos
  constructor
  · intro hnearest
    obtain ⟨next, hnext, hup⟩ := exists_above hx
    obtain ⟨previous, hprevious, hdown⟩ := exists_below hx hzero
    have hlt : x.magnitude < next.magnitude := by linarith
    have hgt : previous.magnitude < x.magnitude := by linarith
    have hhigh : (x.magnitude + next.magnitude) / 2 = x.midpointAbove := by
      rw [hup, midpointAbove]
      ring
    have hlow : (x.magnitude + previous.magnitude) / 2 = x.midpointBelow := by
      rw [hdown, midpointBelow]
      ring
    constructor
    · have h := hnearest previous hprevious hgt.ne
      rwa [abs_sub_lt_iff_of_gt hgt, abs_sub_eq_iff hgt.ne', hlow, eq_comm (a := q)] at h
    · have h := hnearest next hnext hlt.ne'
      rwa [abs_sub_lt_iff_of_lt hlt, abs_sub_eq_iff hlt.ne, hhigh] at h
  · intro hcovers y hy hne
    rw [abs_sub_eq_iff (Ne.symm hne)]
    rcases lt_trichotomy x.rank y.rank with hrank | hrank | hrank
    · have hgap := magnitude_add_gapAbove_le hrank
      rw [abs_sub_lt_iff_of_lt (by linarith)]
      rcases (midpointAbove_le hrank).lt_or_eq with hlt | heq
      · exact .inl (by rcases hcovers.above with h | h <;> linarith)
      · exact heq ▸ hcovers.above
    · exact absurd (magnitude_eq_of_rank_eq hrank).symm hne
    · have hgap := magnitude_le_sub_gapBelow hrank
      rw [abs_sub_lt_iff_of_gt (by linarith), eq_comm (a := q)]
      rcases (le_midpointBelow hrank).lt_or_eq with hlt | heq
      · exact .inl (by rcases hcovers.below with h | h <;> linarith)
      · exact heq ▸ hcovers.below

theorem isNearestTo_magnitude (x : Binary64) : x.IsNearestTo x.magnitude := by
  intro y _ hne
  rw [sub_self, abs_zero, abs_pos]
  exact .inl (sub_ne_zero.2 hne.symm)

theorem rank_lt_of_magnitude_lt {x y : Binary64} (h : x.magnitude < y.magnitude) :
    x.rank < y.rank := by
  rcases lt_trichotomy x.rank y.rank with hrank | hrank | hrank
  · exact hrank
  · exact absurd (magnitude_eq_of_rank_eq hrank) h.ne
  · have hgap := magnitude_le_sub_gapBelow hrank
    have hpos := x.gapBelow_pos
    linarith

/-- What lies above the midpoint below a number is not rounded to a smaller one. -/
theorem not_isNearestTo_of_lt {x y : Binary64} (hy : y.isNaN = false)
    (hlt : x.magnitude < y.magnitude) {q : ℚ} (hq : y.midpointBelow < q) : ¬ x.IsNearestTo q := by
  intro hnearest
  have hmidpoint := le_midpointBelow (rank_lt_of_magnitude_lt hlt)
  have hnearer := (abs_sub_lt_iff_of_gt hlt).2 (hmidpoint.trans_lt hq)
  rcases hnearest y hy hlt.ne' with hless | hequal
  · exact hless.not_gt hnearer
  · exact hnearer.ne' hequal.1

end Binary64

end PropertyGraph
