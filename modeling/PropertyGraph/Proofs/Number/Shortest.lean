import PropertyGraph.Proofs.Number.Nearest

/-!
# The shortest decimal reads back, and no shorter one does

The search goes through the grids of one, two, … seventeen digits and looks at the two points
beside the number on each of them.  That is enough because the decimals that read back form an
interval with the number inside: a point that reads back has the point beside the number between
itself and the number.

A decimal of so many digits need not lie on the grid of that many, for the grids have the leading
digit of the number, and a decimal near a power of ten may have another.  Then the power of ten
lies between the two, so it reads back as well, and it lies on every grid.

* `Decimal.leading_spec`, `Binary64.leadingPlace_spec` — where the leading digit stands;
* `Binary64.readsBack_iff_covers` — the comparisons of whole numbers say what reads back;
* `Binary64.onGrid_eq_some`, `Binary64.onGrid_eq_none` — what one grid gives;
* `Binary64.covers_nearer_of_seventeen` — the last grid gives a decimal in any case;
* `Binary64.isNearestTo_shortest`, `Binary64.digitCount_shortest_le` — the chosen decimal reads
  back, and none that does has fewer digits;
* `Binary64.digitCount_shortest_le_seventeen` — it has at most seventeen.
-/

namespace PropertyGraph

/-! ## Decimals -/

theorem digitCount_le_iff {k : Nat} (n : Nat) (hk : 0 < k) : digitCount n ≤ k ↔ n < 10 ^ k :=
  Nat.length_toDigits_le_iff (by decide) hk

theorem digitCount_pos (n : Nat) : 0 < digitCount n := List.length_pos_iff.2 Nat.toDigits_ne_nil

theorem lt_pow_digitCount (n : Nat) : n < 10 ^ digitCount n :=
  (digitCount_le_iff n (digitCount_pos n)).1 le_rfl

theorem pow_digitCount_le {n : Nat} (hn : n ≠ 0) : 10 ^ (digitCount n - 1) ≤ n := by
  rcases Nat.eq_zero_or_pos (digitCount n - 1) with hone | hmore
  · rw [hone, pow_zero]
    omega
  · by_contra hlt
    have hle := (digitCount_le_iff n hmore).2 (not_le.1 hlt)
    omega

namespace Decimal

/-- The magnitude that a decimal stands for. -/
def magnitude (d : Decimal) : ℚ := d.digits * 10 ^ d.place

/-- The power of ten of the leading digit. -/
def leading (d : Decimal) : Int := d.place + digitCount d.digits - 1

theorem digits_ne_zero {d : Decimal} (h : 0 < d.magnitude) : d.digits ≠ 0 := by
  intro hnone
  rw [magnitude, hnone, Nat.cast_zero, zero_mul] at h
  exact h.false

theorem magnitude_trim (d : Decimal) : d.trim.magnitude = d.magnitude := by
  unfold trim magnitude
  split
  · rename_i hzero
    have hdigits : (d.digits : ℚ) = 10 * (d.digits / 10 : Nat) := by
      have hwhole : d.digits = 10 * (d.digits / 10) := by omega
      exact_mod_cast hwhole
    rw [zpow_add_one₀ (by norm_num), hdigits]
    ring
  · rfl

/-- A decimal of at most so many digits, or the power of ten that comes next, has at most so many
digits when it is trimmed. -/
theorem digitCount_trim_le {d : Decimal} {count : Nat} (hcount : 0 < count)
    (h : d.digits ≤ 10 ^ count) : digitCount d.trim.digits ≤ count := by
  have hpower : 10 ^ count = 10 * 10 ^ (count - 1) := by
    rw [← Nat.pow_succ']
    congr 1
    omega
  have hpos : 0 < 10 ^ (count - 1) := Nat.pow_pos (by decide)
  rw [digitCount_le_iff _ hcount]
  unfold trim
  split
  · dsimp only
    omega
  · omega

/-- The leading digit stands where the magnitude is. -/
theorem leading_spec {d : Decimal} (hd : d.digits ≠ 0) :
    (10 : ℚ) ^ d.leading ≤ d.magnitude ∧ d.magnitude < 10 ^ (d.leading + 1) := by
  have hpos : (0 : ℚ) < 10 ^ d.place := by positivity
  have hcount := digitCount_pos d.digits
  have hlow : (10 : ℚ) ^ (digitCount d.digits - 1) ≤ d.digits := by
    exact_mod_cast pow_digitCount_le hd
  have hhigh : (d.digits : ℚ) < 10 ^ digitCount d.digits := by
    exact_mod_cast lt_pow_digitCount d.digits
  have hleading : (10 : ℚ) ^ d.leading = 10 ^ (digitCount d.digits - 1) * 10 ^ d.place := by
    rw [← zpow_natCast, ← zpow_add₀ (by norm_num), leading]
    congr 1
    omega
  have hnext : (10 : ℚ) ^ (d.leading + 1) = 10 ^ digitCount d.digits * 10 ^ d.place := by
    rw [← zpow_natCast, ← zpow_add₀ (by norm_num), leading]
    congr 1
    omega
  rw [hleading, hnext, magnitude]
  exact ⟨mul_le_mul_of_nonneg_right hlow hpos.le, mul_lt_mul_of_pos_right hhigh hpos⟩

end Decimal

namespace Binary64

variable {x : Binary64} {place : Int}

/-! ## Comparing with a decimal -/

theorem cast_twoTo (k : Nat) : (twoTo k : ℚ) = 2 ^ (k : Int) := by
  rw [zpow_natCast]
  exact Nat.cast_pow 2 k

theorem cast_tenTo (k : Nat) : (tenTo k : ℚ) = 10 ^ (k : Int) := by
  rw [zpow_natCast]
  exact Nat.cast_pow 10 k

/-- Factor and divisor turn quarters into units of the decimal place. -/
theorem cast_quarterFactor (x : Binary64) (place : Int) :
    (x.quarterFactor place : ℚ) = 2 ^ (x.scale - 2) * x.quarterDivisor place / 10 ^ place := by
  have htwo : (2 : ℚ) ^ ((x.scale - 2).toNat : Int) =
      2 ^ (x.scale - 2) * 2 ^ ((2 - x.scale).toNat : Int) := by
    rw [← zpow_add₀ (by norm_num)]
    congr 1
    omega
  have hten : (10 : ℚ) ^ ((-place).toNat : Int) = 10 ^ (place.toNat : Int) / 10 ^ place := by
    rw [← zpow_sub₀ (by norm_num)]
    congr 1
    omega
  unfold quarterFactor quarterDivisor
  push_cast
  rw [cast_twoTo, cast_twoTo, cast_tenTo, cast_tenTo, htwo, hten]
  ring

theorem quarterDivisor_pos (x : Binary64) (place : Int) : 0 < x.quarterDivisor place :=
  Nat.mul_pos (Nat.pow_pos (by decide)) (Nat.pow_pos (by decide))

/-- Up to one positive factor, a grid counts decimals in units of its place and quarters as they
are. -/
theorem exists_gridUnit (x : Binary64) (place : Int) :
    ∃ unit : ℚ, 0 < unit ∧
      (∀ c : Nat, ((c * x.quarterDivisor place : Nat) : ℚ) = c * 10 ^ place * unit) ∧
      ∀ k : Nat, ((k * x.quarterFactor place : Nat) : ℚ) = k * 2 ^ (x.scale - 2) * unit := by
  have hdivisor : (0 : ℚ) < x.quarterDivisor place := by exact_mod_cast x.quarterDivisor_pos place
  have hplace : (0 : ℚ) < 10 ^ place := by positivity
  refine ⟨x.quarterDivisor place / 10 ^ place, div_pos hdivisor hplace, fun c => ?_, fun k => ?_⟩
  · rw [Nat.cast_mul, mul_assoc, mul_div_cancel₀ _ hplace.ne']
  · rw [Nat.cast_mul, cast_quarterFactor]
    ring

theorem le_quarters_iff (x : Binary64) (place : Int) (c k : Nat) :
    c * x.quarterDivisor place ≤ k * x.quarterFactor place ↔
      (c : ℚ) * 10 ^ place ≤ k * 2 ^ (x.scale - 2) := by
  obtain ⟨unit, hpos, hc, hk⟩ := x.exists_gridUnit place
  rw [← Nat.cast_le (α := ℚ), hc, hk, mul_le_mul_iff_left₀ hpos]

theorem quarter_eq (x : Binary64) : (2 : ℚ) ^ (x.scale - 2) = 2 ^ x.scale / 4 := by
  rw [zpow_sub₀ (by norm_num)]
  norm_num

theorem quarters_eq (x : Binary64) : (x.quarters : ℚ) * 2 ^ (x.scale - 2) = x.magnitude := by
  rw [quarter_eq, quarters, magnitude]
  push_cast
  ring

theorem highEnd_eq (x : Binary64) : (x.highEnd : ℚ) * 2 ^ (x.scale - 2) = x.midpointAbove := by
  rw [quarter_eq, highEnd, quarters, midpointAbove, magnitude, gapAbove]
  push_cast
  ring

theorem lowEnd_eq (hzero : x.significand ≠ 0) :
    (x.lowEnd : ℚ) * 2 ^ (x.scale - 2) = x.midpointBelow := by
  rw [quarter_eq, lowEnd, quarters, midpointBelow, magnitude, gapBelow]
  split
  · rw [Nat.cast_sub (by omega)]
    push_cast
    ring
  · rw [Nat.cast_sub (by omega)]
    push_cast
    ring

/-- A decimal reads back iff it lies in the interval around the number. -/
theorem readsBack_iff_covers (hzero : x.significand ≠ 0) (place : Int) (c : Nat) :
    x.readsBack place c = true ↔ x.Covers (c * 10 ^ place) := by
  obtain ⟨unit, hpos, hc, hk⟩ := x.exists_gridUnit place
  have hlow := hk x.lowEnd
  have hhigh := hk x.highEnd
  rw [lowEnd_eq hzero] at hlow
  rw [highEnd_eq] at hhigh
  unfold readsBack
  dsimp only
  split
  · rename_i heven
    rw [Bool.and_eq_true, decide_eq_true_iff, decide_eq_true_iff, ← Nat.cast_le (α := ℚ),
      ← Nat.cast_le (α := ℚ), hc, hlow, hhigh, mul_le_mul_iff_left₀ hpos, mul_le_mul_iff_left₀ hpos]
    constructor
    · rintro ⟨hbelow, habove⟩
      exact ⟨hbelow.lt_or_eq.imp_right fun h => ⟨h, heven⟩,
        habove.lt_or_eq.imp_right fun h => ⟨h, heven⟩⟩
    · rintro ⟨hbelow, habove⟩
      exact ⟨hbelow.elim le_of_lt fun h => h.1.le, habove.elim le_of_lt fun h => h.1.le⟩
  · rename_i hodd
    rw [Bool.and_eq_true, decide_eq_true_iff, decide_eq_true_iff, ← Nat.cast_lt (α := ℚ),
      ← Nat.cast_lt (α := ℚ), hc, hlow, hhigh, mul_lt_mul_iff_left₀ hpos, mul_lt_mul_iff_left₀ hpos]
    constructor
    · rintro ⟨hbelow, habove⟩
      exact ⟨.inl hbelow, .inl habove⟩
    · rintro ⟨hbelow, habove⟩
      exact ⟨hbelow.resolve_right fun h => hodd h.2, habove.resolve_right fun h => hodd h.2⟩

/-! ## The points of a grid beside a number -/

/-- The point of the grid `10 ^ place` at the number or below it. -/
def below (x : Binary64) (place : Int) : Nat :=
  x.quarters * x.quarterFactor place / x.quarterDivisor place

theorem le_below_iff (x : Binary64) (place : Int) (c : Nat) :
    c ≤ x.below place ↔ (c : ℚ) * 10 ^ place ≤ x.magnitude := by
  rw [below, Nat.le_div_iff_mul_le (x.quarterDivisor_pos place), le_quarters_iff, quarters_eq]

theorem below_le (x : Binary64) (place : Int) : (x.below place : ℚ) * 10 ^ place ≤ x.magnitude :=
  (x.le_below_iff place _).1 le_rfl

theorem lt_above (x : Binary64) (place : Int) :
    x.magnitude < ((x.below place + 1 : Nat) : ℚ) * 10 ^ place := by
  rw [← not_le, ← le_below_iff]
  omega

/-- A point of a grid beside a number: there is none between them. -/
def Beside (x : Binary64) (place : Int) (c : Nat) : Prop :=
  c = x.below place ∨ c = x.below place + 1

/-- Which of the two points is nearer depends on what the division leaves. -/
theorem nearer_cases (tie : Tie) (x : Binary64) (place : Int) :
    (nearer tie x place = x.below place ∧
        2 * (x.quarters * x.quarterFactor place % x.quarterDivisor place) ≤
          x.quarterDivisor place) ∨
      (nearer tie x place = x.below place + 1 ∧
        x.quarterDivisor place ≤
          2 * (x.quarters * x.quarterFactor place % x.quarterDivisor place)) := by
  unfold nearer
  dsimp only
  rw [← below]
  split
  · rename_i hless
    exact .inl ⟨rfl, hless.le⟩
  · rename_i hnotless
    split
    · rename_i hmore
      exact .inr ⟨rfl, hmore.le⟩
    · rename_i hnotmore
      cases tie with
      | up => exact .inr ⟨rfl, not_lt.1 hnotless⟩
      | toEven =>
        dsimp only
        split
        · exact .inl ⟨rfl, not_lt.1 hnotmore⟩
        · exact .inr ⟨rfl, not_lt.1 hnotless⟩

theorem beside_nearer (tie : Tie) (x : Binary64) (place : Int) :
    x.Beside place (nearer tie x place) :=
  (nearer_cases tie x place).imp And.left And.left

/-- The nearer point is at most half a step away, in the whole numbers that are compared. -/
theorem nearer_mul_bounds (tie : Tie) (x : Binary64) (place : Int) :
    2 * (nearer tie x place * x.quarterDivisor place) ≤
        2 * (x.quarters * x.quarterFactor place) + x.quarterDivisor place ∧
      2 * (x.quarters * x.quarterFactor place) ≤
        2 * (nearer tie x place * x.quarterDivisor place) + x.quarterDivisor place := by
  have hdivided := Nat.div_add_mod' (x.quarters * x.quarterFactor place) (x.quarterDivisor place)
  have hrest := Nat.mod_lt (x.quarters * x.quarterFactor place) (x.quarterDivisor_pos place)
  rw [← below] at hdivided
  rcases nearer_cases tie x place with ⟨hbelow, hless⟩ | ⟨habove, hmore⟩
  · rw [hbelow]
    omega
  · rw [habove, Nat.add_mul]
    omega

theorem abs_nearer_sub_le (tie : Tie) (x : Binary64) (place : Int) :
    |(nearer tie x place : ℚ) * 10 ^ place - x.magnitude| ≤ 10 ^ place / 2 := by
  obtain ⟨unit, hpos, hc, hk⟩ := x.exists_gridUnit place
  obtain ⟨hhigh, hlow⟩ := nearer_mul_bounds tie x place
  have hone := hc 1
  rw [Nat.cast_one, one_mul, one_mul] at hone
  have hhigh : 2 * ((nearer tie x place : ℚ) * 10 ^ place * unit) ≤
      2 * (x.magnitude * unit) + 10 ^ place * unit := by
    rw [← quarters_eq, ← hc, ← hk, ← hone]
    exact_mod_cast hhigh
  have hlow : 2 * (x.magnitude * unit) ≤
      2 * ((nearer tie x place : ℚ) * 10 ^ place * unit) + 10 ^ place * unit := by
    rw [← quarters_eq, ← hc, ← hk, ← hone]
    exact_mod_cast hlow
  rw [abs_le]
  constructor
  · refine le_of_mul_le_mul_right ?_ hpos
    linarith
  · refine le_of_mul_le_mul_right ?_ hpos
    linarith

theorem onGrid_eq (tie : Tie) (x : Binary64) (place : Int) :
    onGrid tie x place =
      match x.readsBack place (x.below place), x.readsBack place (x.below place + 1) with
      | true, true => some (nearer tie x place)
      | true, false => some (x.below place)
      | false, true => some (x.below place + 1)
      | false, false => none := rfl

/-- **If any point of a grid reads back, one of the two beside the number does.** -/
theorem onGrid_eq_none {tie : Tie} (hzero : x.significand ≠ 0) (h : onGrid tie x place = none)
    (c : Nat) : ¬ x.Covers (c * 10 ^ place) := by
  have hneither : x.readsBack place (x.below place) = false ∧
      x.readsBack place (x.below place + 1) = false := by
    rw [onGrid_eq] at h
    split at h
    · cases h
    · cases h
    · cases h
    · exact ⟨‹_›, ‹_›⟩
  intro hcovers
  have hplace : (0 : ℚ) < 10 ^ place := by positivity
  rcases Nat.lt_or_ge (x.below place) c with habove | hbelow
  · have hle : ((x.below place + 1 : Nat) : ℚ) * 10 ^ place ≤ c * 10 ^ place :=
      mul_le_mul_of_nonneg_right (by exact_mod_cast habove) hplace.le
    have hbeside := x.covers_magnitude.between hcovers (x.lt_above place).le hle
    rw [← readsBack_iff_covers hzero, hneither.2] at hbeside
    cases hbeside
  · have hle : (c : ℚ) * 10 ^ place ≤ x.below place * 10 ^ place :=
      mul_le_mul_of_nonneg_right (by exact_mod_cast hbelow) hplace.le
    have hbeside := hcovers.between x.covers_magnitude hle (x.below_le place)
    rw [← readsBack_iff_covers hzero, hneither.1] at hbeside
    cases hbeside

theorem onGrid_eq_some {tie : Tie} (hzero : x.significand ≠ 0) {c : Nat}
    (h : onGrid tie x place = some c) : x.Covers (c * 10 ^ place) ∧ x.Beside place c := by
  rw [onGrid_eq] at h
  split at h
  · rename_i hbelow habove
    obtain rfl : nearer tie x place = c := Option.some.inj h
    have hbeside := beside_nearer tie x place
    refine ⟨?_, hbeside⟩
    rcases hbeside with heq | heq
    · rw [heq, ← readsBack_iff_covers hzero, hbelow]
    · rw [heq, ← readsBack_iff_covers hzero, habove]
  · rename_i hbelow habove
    obtain rfl : x.below place = c := Option.some.inj h
    exact ⟨(readsBack_iff_covers hzero _ _).1 hbelow, .inl rfl⟩
  · rename_i hbelow habove
    obtain rfl : x.below place + 1 = c := Option.some.inj h
    exact ⟨(readsBack_iff_covers hzero _ _).1 habove, .inr rfl⟩
  · cases h

/-! ## The place of the leading digit -/

theorem magnitude_eq_zero (hzero : x.significand = 0) : x.magnitude = 0 := by
  rw [magnitude, hzero, Nat.cast_zero, zero_mul]

theorem pow_le_below_iff (x : Binary64) (place : Int) (k : Nat) :
    10 ^ k ≤ x.below place ↔ (10 : ℚ) ^ (k + place) ≤ x.magnitude := by
  rw [le_below_iff, zpow_add₀ (by norm_num), zpow_natCast]
  push_cast
  rfl

/-- The greatest number of times that one number fits strictly into another. -/
theorem le_ceil_sub_one_iff {t num den : Nat} (hnum : 0 < num) (hden : 0 < den) :
    t ≤ (den + num - 1) / num - 1 ↔ t * num < den := by
  have hone : 1 ≤ (den + num - 1) / num := (Nat.le_div_iff_mul_le hnum).2 (by omega)
  have hnext : t + 1 ≤ (den + num - 1) / num ↔ t * num + num ≤ den + num - 1 := by
    rw [Nat.le_div_iff_mul_le hnum, Nat.add_mul, Nat.one_mul]
  omega

/-- The greatest natural number below the reciprocal of a number. -/
def belowReciprocal (x : Binary64) : Nat :=
  (x.quarterDivisor 0 + x.quarters * x.quarterFactor 0 - 1) / (x.quarters * x.quarterFactor 0) - 1

theorem le_belowReciprocal_iff (hzero : x.significand ≠ 0) (t : Nat) :
    t ≤ x.belowReciprocal ↔ t * x.magnitude < 1 := by
  have hquarters : 0 < x.quarters * x.quarterFactor 0 :=
    Nat.mul_pos (Nat.mul_pos (by decide) (Nat.pos_of_ne_zero hzero))
      (Nat.mul_pos (Nat.pow_pos (by decide)) (Nat.pow_pos (by decide)))
  have hcompared := x.le_quarters_iff 0 1 (t * x.quarters)
  rw [Nat.one_mul, Nat.mul_assoc, Nat.cast_mul, mul_assoc, quarters_eq, zpow_zero, mul_one,
    Nat.cast_one] at hcompared
  rw [belowReciprocal, le_ceil_sub_one_iff hquarters (x.quarterDivisor_pos 0), ← not_le, hcompared,
    not_le]

theorem pow_le_belowReciprocal_iff (hzero : x.significand ≠ 0) (k : Nat) :
    10 ^ k ≤ x.belowReciprocal ↔ x.magnitude < 10 ^ (-(k : Int)) := by
  rw [le_belowReciprocal_iff hzero, Nat.cast_pow, ← lt_div_iff₀' (by positivity), one_div, zpow_neg,
    zpow_natCast]
  rfl

theorem leadingPlace_eq (x : Binary64) :
    x.leadingPlace =
      if x.quarterDivisor 0 ≤ x.quarters * x.quarterFactor 0 then (digitCount (x.below 0) : Int) - 1
      else -(digitCount x.belowReciprocal : Int) := rfl

/-- The leading digit stands where the magnitude is. -/
theorem leadingPlace_spec (hzero : x.significand ≠ 0) :
    (10 : ℚ) ^ x.leadingPlace ≤ x.magnitude ∧ x.magnitude < 10 ^ (x.leadingPlace + 1) := by
  have hwhole := x.le_quarters_iff 0 1 x.quarters
  rw [quarters_eq, Nat.one_mul, Nat.cast_one, one_mul, zpow_zero] at hwhole
  rw [leadingPlace_eq]
  split
  · -- From one on, the digits of the whole part are counted.
    rename_i hlarge
    have hbelow : x.below 0 ≠ 0 := by
      rw [← Nat.one_le_iff_ne_zero, le_below_iff, Nat.cast_one, one_mul, zpow_zero, ← hwhole]
      exact hlarge
    have hcount := digitCount_pos (x.below 0)
    have hlow := (x.pow_le_below_iff 0 _).1 (pow_digitCount_le hbelow)
    have hhigh := (x.pow_le_below_iff 0 _).not.1 (lt_pow_digitCount (x.below 0)).not_ge
    rw [add_zero, Nat.cast_sub hcount] at hlow
    rw [add_zero, not_le] at hhigh
    rw [sub_add_cancel]
    exact ⟨hlow, hhigh⟩
  · -- Below one, the digits of the reciprocal are counted.
    rename_i hsmall
    have hcount := digitCount_pos x.belowReciprocal
    have hreciprocal : x.belowReciprocal ≠ 0 := by
      rw [← Nat.one_le_iff_ne_zero, le_belowReciprocal_iff hzero, Nat.cast_one, one_mul, ← not_le,
        ← hwhole]
      exact hsmall
    have hlow := (pow_le_belowReciprocal_iff hzero _).not.1 (lt_pow_digitCount _).not_ge
    have hhigh := (pow_le_belowReciprocal_iff hzero _).1 (pow_digitCount_le hreciprocal)
    rw [Nat.cast_sub hcount, neg_sub, Nat.cast_one, sub_eq_neg_add] at hhigh
    exact ⟨not_lt.1 hlow, hhigh⟩

/-- The place of the grid of `count` digits. -/
def gridPlace (x : Binary64) (count : Nat) : Int := x.leadingPlace - count + 1

/-- The points beside a number on the grid of `count` digits have that many, or the upper one is the
next power of ten. -/
theorem Beside.bounds (hzero : x.significand ≠ 0) {count c : Nat} (hcount : 0 < count)
    (h : x.Beside (x.gridPlace count) c) : 10 ^ (count - 1) ≤ c ∧ c ≤ 10 ^ count := by
  obtain ⟨hlow, hhigh⟩ := leadingPlace_spec hzero
  have hfirst : ((count - 1 : Nat) : Int) + x.gridPlace count = x.leadingPlace := by
    unfold gridPlace
    omega
  have hnext : (count : Int) + x.gridPlace count = x.leadingPlace + 1 := by
    unfold gridPlace
    omega
  have hleast : 10 ^ (count - 1) ≤ x.below (x.gridPlace count) := by
    rwa [pow_le_below_iff, hfirst]
  have hgreatest : x.below (x.gridPlace count) < 10 ^ count := by
    rw [← not_le, pow_le_below_iff, hnext]
    exact not_le.2 hhigh
  rcases h with rfl | rfl
  · exact ⟨hleast, hgreatest.le⟩
  · exact ⟨Nat.le_succ_of_le hleast, hgreatest⟩

/-! ## The search -/

/-- A number is less than ten to the sixteenth times its distance to the one before. -/
theorem magnitude_lt_gapBelow (x : Binary64) : x.magnitude < 10 ^ 16 * x.gapBelow := by
  have hscale : (0 : ℚ) < 2 ^ x.scale := by positivity
  have hfraction := x.fractionBits_lt
  have hsignificand := x.significand_cases
  unfold magnitude gapBelow
  split
  · have hpower : (x.significand : ℚ) = 2 ^ 52 := by
      have hexact : x.significand = 2 ^ 52 := by omega
      exact_mod_cast hexact
    rw [hpower]
    linarith
  · have hbound : (x.significand : ℚ) < 10 ^ 16 := by
      have hlt : x.significand < 10 ^ 16 := by omega
      exact_mod_cast hlt
    exact mul_lt_mul_of_pos_right hbound hscale

/-- **Seventeen digits are enough.**  A step of their grid is less than the distance to either
neighbour. -/
theorem covers_nearer_of_seventeen (tie : Tie) (hzero : x.significand ≠ 0) :
    x.Covers (nearer tie x (x.gridPlace 17) * 10 ^ x.gridPlace 17) := by
  have hnearer := abs_le.1 (abs_nearer_sub_le tie x (x.gridPlace 17))
  have hlow := (leadingPlace_spec hzero).1
  have hpower : (10 : ℚ) ^ x.leadingPlace = 10 ^ x.gridPlace 17 * 10 ^ (16 : Int) := by
    rw [← zpow_add₀ (by norm_num), gridPlace]
    congr 1
    omega
  have hstep : (10 : ℚ) ^ x.gridPlace 17 < x.gapBelow := by
    have hgap := x.magnitude_lt_gapBelow
    norm_num at hpower
    linarith
  have hgaps := x.gapBelow_le_gapAbove
  constructor
  · left
    unfold midpointBelow
    linarith
  · left
    unfold midpointAbove
    linarith

/-- The first grid with a point that reads back, and the point taken on it. -/
structure FirstGrid (x : Binary64) (start count c : Nat) : Prop where
  start_le : start ≤ count
  le_seventeen : count ≤ 17
  covers : x.Covers (c * 10 ^ x.gridPlace count)
  beside : x.Beside (x.gridPlace count) c
  first : ∀ n, start ≤ n → n < count → ∀ c : Nat, ¬ x.Covers (c * 10 ^ x.gridPlace n)

theorem searchGrids_succ (tie : Tie) (x : Binary64) (left start : Nat) :
    searchGrids tie x (left + 1) start =
      match onGrid tie x (x.gridPlace start) with
      | some c => ⟨c, x.gridPlace start⟩
      | none => searchGrids tie x left (start + 1) := rfl

/-- **The search takes the first grid with a point that reads back.** -/
theorem searchGrids_spec (tie : Tie) (hzero : x.significand ≠ 0) (left start : Nat)
    (hleft : left + start = 17) :
    ∃ count c, searchGrids tie x left start = ⟨c, x.gridPlace count⟩ ∧
      x.FirstGrid start count c := by
  induction left generalizing start with
  | zero =>
    obtain rfl : start = 17 := by omega
    refine ⟨17, nearer tie x (x.gridPlace 17), rfl, le_rfl, le_rfl,
      covers_nearer_of_seventeen tie hzero, beside_nearer tie x _, ?_⟩
    intro n hle hlt
    omega
  | succ left ih =>
    rw [searchGrids_succ]
    cases hgrid : onGrid tie x (x.gridPlace start) with
    | some c =>
      obtain ⟨hcovers, hbeside⟩ := onGrid_eq_some hzero hgrid
      refine ⟨start, c, rfl, le_rfl, by omega, hcovers, hbeside, ?_⟩
      intro n hle hlt
      omega
    | none =>
      obtain ⟨count, c, hrest, hfirst⟩ := ih (start + 1) (by omega)
      have hstart := hfirst.start_le
      refine ⟨count, c, hrest, by omega, hfirst.le_seventeen, hfirst.covers, hfirst.beside, ?_⟩
      intro n hle hlt
      rcases hle.eq_or_lt with rfl | hlater
      · exact onGrid_eq_none hzero hgrid
      · exact hfirst.first n hlater hlt

/-! ## The shortest decimal -/

theorem shortest_spec (tie : Tie) (hzero : x.significand ≠ 0) :
    ∃ count c, shortest tie x = (⟨c, x.gridPlace count⟩ : Decimal).trim ∧
      x.FirstGrid 1 count c := by
  obtain ⟨count, c, hsearch, hfirst⟩ := searchGrids_spec tie hzero 16 1 rfl
  refine ⟨count, c, ?_, hfirst⟩
  rw [shortest, if_neg hzero, hsearch]

/-- The decimal taken on a grid has no more digits than the grid. -/
theorem FirstGrid.digitCount_le (hzero : x.significand ≠ 0) {count c : Nat}
    (h : x.FirstGrid 1 count c) :
    digitCount (⟨c, x.gridPlace count⟩ : Decimal).trim.digits ≤ count :=
  Decimal.digitCount_trim_le h.start_le (h.beside.bounds hzero h.start_le).2

/-- **No number takes more than seventeen digits.** -/
theorem digitCount_shortest_le_seventeen (tie : Tie) (x : Binary64) :
    digitCount (shortest tie x).digits ≤ 17 := by
  by_cases hzero : x.significand = 0
  · rw [shortest, if_pos hzero]
    decide
  · obtain ⟨count, c, hshortest, hfirst⟩ := shortest_spec tie hzero
    rw [hshortest]
    exact (hfirst.digitCount_le hzero).trans hfirst.le_seventeen

theorem magnitude_shortest_eq_zero (tie : Tie) (hzero : x.significand = 0) :
    (shortest tie x).magnitude = 0 := by
  rw [shortest, if_pos hzero, Decimal.magnitude, Nat.cast_zero, zero_mul]

/-- **The shortest decimal reads back.** -/
theorem isNearestTo_shortest (tie : Tie) (hx : x.isFinite = true) :
    x.IsNearestTo (shortest tie x).magnitude := by
  by_cases hzero : x.significand = 0
  · intro y hy hne
    rw [magnitude_eq_zero hzero] at hne ⊢
    rw [magnitude_shortest_eq_zero tie hzero, sub_zero, abs_zero, abs_pos, zero_sub, neg_ne_zero]
    exact .inl hne
  · obtain ⟨count, c, hshortest, hfirst⟩ := shortest_spec tie hzero
    rw [isNearestTo_iff_covers hx hzero, hshortest, Decimal.magnitude_trim]
    exact hfirst.covers

/-- The powers of ten around a number lie on each of its grids. -/
theorem pow_mul_gridPlace (x : Binary64) (count k : Nat) :
    ((10 ^ k : Nat) : ℚ) * 10 ^ x.gridPlace count = 10 ^ (x.leadingPlace - count + 1 + k) := by
  rw [zpow_add₀ (by norm_num), zpow_natCast, mul_comm, gridPlace]
  push_cast
  rfl

theorem pow_leadingPlace_eq (x : Binary64) {count : Nat} (hcount : 0 < count) :
    ((10 ^ (count - 1) : Nat) : ℚ) * 10 ^ x.gridPlace count = 10 ^ x.leadingPlace := by
  rw [pow_mul_gridPlace]
  congr 1
  omega

theorem pow_next_eq (x : Binary64) (count : Nat) :
    ((10 ^ count : Nat) : ℚ) * 10 ^ x.gridPlace count = 10 ^ (x.leadingPlace + 1) := by
  rw [pow_mul_gridPlace]
  congr 1
  omega

/-- Every decimal that reads back has a companion on the grid of its number of digits: it lies there
itself, or a power of ten lies between it and the number. -/
theorem Covers.exists_onGrid (hzero : x.significand ≠ 0) {d : Decimal} (h : x.Covers d.magnitude) :
    ∃ c : Nat, x.Covers (c * 10 ^ x.gridPlace (digitCount d.digits)) := by
  obtain ⟨hlow, hhigh⟩ := leadingPlace_spec hzero
  rcases lt_or_ge d.magnitude (10 ^ x.leadingPlace) with hbelow | hfrom
  · refine ⟨10 ^ (digitCount d.digits - 1), ?_⟩
    rw [x.pow_leadingPlace_eq (digitCount_pos _)]
    exact h.between x.covers_magnitude hbelow.le hlow
  · rcases le_or_gt (10 ^ (x.leadingPlace + 1)) d.magnitude with habove | hto
    · refine ⟨10 ^ digitCount d.digits, ?_⟩
      rw [pow_next_eq]
      exact x.covers_magnitude.between h hhigh.le habove
    · have hpos : (0 : ℚ) < 10 ^ x.leadingPlace := by positivity
      have hdigits := Decimal.digits_ne_zero (hpos.trans_le hfrom)
      obtain ⟨hleast, hgreatest⟩ := Decimal.leading_spec hdigits
      have hlt := (zpow_lt_zpow_iff_right₀ (by norm_num)).1 (hfrom.trans_lt hgreatest)
      have hgt := (zpow_lt_zpow_iff_right₀ (by norm_num)).1 (hleast.trans_lt hto)
      have hplace : d.place = x.gridPlace (digitCount d.digits) := by
        unfold Decimal.leading at hlt hgt
        unfold gridPlace
        omega
      refine ⟨d.digits, ?_⟩
      rw [← hplace]
      exact h

/-- **No decimal that reads back has fewer digits than the shortest one.** -/
theorem digitCount_shortest_le (tie : Tie) (hx : x.isFinite = true) {d : Decimal}
    (h : x.IsNearestTo d.magnitude) :
    digitCount (shortest tie x).digits ≤ digitCount d.digits := by
  by_cases hzero : x.significand = 0
  · rw [shortest, if_pos hzero]
    exact digitCount_pos d.digits
  · obtain ⟨count, c, hshortest, hfirst⟩ := shortest_spec tie hzero
    have hcount : count ≤ digitCount d.digits := by
      obtain ⟨c', hcovers⟩ := ((isNearestTo_iff_covers hx hzero).1 h).exists_onGrid hzero
      by_contra hless
      exact hfirst.first _ (digitCount_pos d.digits) (not_le.1 hless) c' hcovers
    rw [hshortest]
    exact (hfirst.digitCount_le hzero).trans hcount

theorem lt_digitCount_shortest_iff (tie : Tie) (hx : x.isFinite = true) (k : Nat) :
    k < digitCount (shortest tie x).digits ↔
      ∀ d : Decimal, x.IsNearestTo d.magnitude → k < digitCount d.digits := by
  constructor
  · intro hlt d hd
    exact hlt.trans_le (digitCount_shortest_le tie hx hd)
  · intro hall
    exact hall _ (isNearestTo_shortest tie hx)

/-- The shortest decimal stays between the powers of ten that a number lies between. -/
theorem shortest_bounds (tie : Tie) (hzero : x.significand ≠ 0) :
    (10 : ℚ) ^ x.leadingPlace ≤ (shortest tie x).magnitude ∧
      (shortest tie x).magnitude ≤ 10 ^ (x.leadingPlace + 1) := by
  obtain ⟨count, c, hshortest, hfirst⟩ := shortest_spec tie hzero
  have hbounds := hfirst.beside.bounds hzero hfirst.start_le
  have hplace : (0 : ℚ) < 10 ^ x.gridPlace count := by positivity
  rw [hshortest, Decimal.magnitude_trim, Decimal.magnitude, ← pow_leadingPlace_eq x hfirst.start_le,
    ← pow_next_eq x count]
  exact ⟨mul_le_mul_of_nonneg_right (by exact_mod_cast hbounds.1) hplace.le,
    mul_le_mul_of_nonneg_right (by exact_mod_cast hbounds.2) hplace.le⟩

theorem pow_le_magnitude_shortest (tie : Tie) {k : Int} (h : 10 ^ k ≤ x.magnitude) :
    10 ^ k ≤ (shortest tie x).magnitude := by
  have hpos : (0 : ℚ) < 10 ^ k := by positivity
  have hzero : x.significand ≠ 0 := by
    intro hzero
    rw [magnitude_eq_zero hzero] at h
    exact hpos.not_ge h
  have hlt := (zpow_lt_zpow_iff_right₀ (by norm_num)).1 (h.trans_lt (leadingPlace_spec hzero).2)
  calc (10 : ℚ) ^ k
      ≤ 10 ^ x.leadingPlace := zpow_le_zpow_right₀ (by norm_num) (by omega)
    _ ≤ (shortest tie x).magnitude := (shortest_bounds tie hzero).1

theorem magnitude_shortest_le_pow (tie : Tie) {k : Int} (h : x.magnitude < 10 ^ k) :
    (shortest tie x).magnitude ≤ 10 ^ k := by
  by_cases hzero : x.significand = 0
  · rw [magnitude_shortest_eq_zero tie hzero]
    positivity
  · have hlt := (zpow_lt_zpow_iff_right₀ (by norm_num)).1 ((leadingPlace_spec hzero).1.trans_lt h)
    calc (shortest tie x).magnitude
        ≤ 10 ^ (x.leadingPlace + 1) := (shortest_bounds tie hzero).2
      _ ≤ 10 ^ k := zpow_le_zpow_right₀ (by norm_num) hlt

theorem digits_shortest_ne_zero (tie : Tie) (hzero : x.significand ≠ 0) :
    (shortest tie x).digits ≠ 0 := by
  have hpos : (0 : ℚ) < 10 ^ x.leadingPlace := by positivity
  exact Decimal.digits_ne_zero (hpos.trans_le (shortest_bounds tie hzero).1)

/-- If a power of ten is rounded up, then a number is at least that power iff its shortest decimal
is. -/
theorem le_leading_shortest_iff (tie : Tie) (hx : x.isFinite = true) (hzero : x.significand ≠ 0)
    {y : Binary64} (hy : y.isNaN = false) {k : Int} (habove : (10 : ℚ) ^ k ≤ y.magnitude)
    (hbelow : y.midpointBelow < 10 ^ k) :
    k ≤ (shortest tie x).leading ↔ (10 : ℚ) ^ k ≤ x.magnitude := by
  obtain ⟨hlow, hhigh⟩ := Decimal.leading_spec (digits_shortest_ne_zero tie hzero)
  constructor
  · intro hle
    by_contra hless
    have hlt := not_le.1 hless
    have hpower : (10 : ℚ) ^ k ≤ (shortest tie x).magnitude :=
      (zpow_le_zpow_right₀ (by norm_num) hle).trans hlow
    have hequal := le_antisymm (magnitude_shortest_le_pow tie hlt) hpower
    have hnearest := isNearestTo_shortest tie hx
    rw [hequal] at hnearest
    exact not_isNearestTo_of_lt hy (hlt.trans_le habove) hbelow hnearest
  · intro hle
    have hpower := (pow_le_magnitude_shortest tie hle).trans_lt hhigh
    exact Int.lt_add_one_iff.1 ((zpow_lt_zpow_iff_right₀ (by norm_num)).1 hpower)

end Binary64

end PropertyGraph
