import PropertyGraph.Number.Numeral

/-!
# The number a numeral stands for when it is read

A whole numeral that fits a machine integer is that integer.  Any other numeral is read as a
binary floating-point number in two steps: its digits are gathered into an integer of at most
64 bits, and that integer, rounded, is multiplied or divided by a power of ten, rounded again.
Digits beyond the 64 bits only count as powers of ten in the whole part and are dropped from the
fraction.  A number too great for the format is refused.

* `Numeral.toUnsigned?`, `Numeral.toSigned?` — the machine integers;
* `Numeral.toBinary64?` — the floating-point reading of any numeral;
* `Numeral.inRange` — whether the numeral can be read at all;
* `toBounded?_ofInt`, `toSigned?_toInt`, `toUnsigned?_toNat` — an integer is read back from its
  numeral.
-/

namespace PropertyGraph

namespace Numeral

/-- The greatest significand that is gathered. -/
def significandLimit : Nat := UInt64.size - 1

/-- The longest row of leading digits of `n` that stays within the limit, and the number of
digits left out; `fuel` bounds the number of digits. -/
def leadingDigits : Nat → Nat → Nat × Nat
  | 0, n => (n, 0)
  | fuel + 1, n =>
    if n ≤ significandLimit then (n, 0)
    else
      let (kept, dropped) := leadingDigits fuel (n / 10)
      (kept, dropped + 1)

/-- A significand with digits of a fraction appended as long as it stays within the limit, and
the number of digits appended. -/
def appendDigits : Nat → List Digit → Nat × Nat
  | n, [] => (n, 0)
  | n, d :: ds =>
    if 10 * n + d.val ≤ significandLimit then
      let (kept, taken) := appendDigits (10 * n + d.val) ds
      (kept, taken + 1)
    else (n, 0)

/-- The gathered digits of a numeral and the power of ten they count in. -/
def gathered (n : Numeral) : Decimal :=
  let (kept, dropped) := leadingDigits (digitCount n.whole) n.whole
  let (digits, taken) := appendDigits kept n.fraction
  ⟨digits, (dropped : Int) - taken + n.exponent.getD 0⟩

/-- The greatest power of ten that is applied in one step. -/
def stepLimit : Nat := 308

/-- A power of ten as a binary number. -/
def powerOfTen (k : Nat) : Binary64 := Binary64.ofNat (tenTo k)

/-- A magnitude times `10 ^ place`, in steps of at most `10 ^ 308`, each rounded; `fuel` bounds
the number of steps.  There is no result if a step leaves the finite numbers. -/
def scaled : Nat → Binary64 → Int → Option Binary64
  | 0, _, _ => none
  | fuel + 1, x, place =>
    if place.natAbs ≤ stepLimit then
      if 0 ≤ place then
        let y := x.times (powerOfTen place.natAbs)
        if y.isFinite then some y else none
      else some (x.dividedBy (powerOfTen place.natAbs))
    else if x.isZero then some x
    else if 0 ≤ place then none
    else scaled fuel (x.dividedBy (powerOfTen stepLimit)) (place + stepLimit)

/-- The floating-point reading of a numeral.  Four steps are enough: a significand of at most 64
bits is zero after three divisions by `10 ^ 308`. -/
def toBinary64? (n : Numeral) : Option Binary64 :=
  let d := n.gathered
  (scaled 4 (Binary64.ofNat d.digits) d.place).map fun x =>
    if n.negative then x.negate else x

/-- The numeral as an unsigned machine integer.  A zero with a sign is none. -/
def toUnsigned? (n : Numeral) : Option UInt64 :=
  if n.isWhole ∧ n.negative = false ∧ n.whole < UInt64.size then some (UInt64.ofNat n.whole)
  else none

/-- The numeral as a machine integer between two bounds.  A zero with a sign is none. -/
def toBounded? (low high : Int) (n : Numeral) : Option Int :=
  if n.isWhole ∧ ¬(n.negative = true ∧ n.whole = 0) ∧ low ≤ n.toInt ∧ n.toInt ≤ high then
    some n.toInt
  else none

/-- The numeral as a signed machine integer. -/
def toSigned? (n : Numeral) : Option Int64 :=
  (n.toBounded? Int64.minValue.toInt Int64.maxValue.toInt).map Int64.ofInt

/-- Whether a numeral can be read: a whole one of at most 64 bits always, any other iff it has a
finite floating-point reading. -/
def inRange (n : Numeral) : Bool :=
  (n.isWhole && decide (n.whole < UInt64.size)) || n.toBinary64?.isSome

/-- An integer within the bounds is read back from its numeral. -/
theorem toBounded?_ofInt (low high i : Int) (hlow : low ≤ i) (hhigh : i ≤ high) :
    (ofInt i).toBounded? low high = some i := by
  have hvalue : (ofInt i).toInt = i := by
    by_cases hneg : i < 0
    · simp only [toInt, ofInt, hneg, decide_true, if_true]
      omega
    · simp only [toInt, ofInt, hneg, decide_false, Bool.false_eq_true, if_false]
      omega
  have hsign : ¬ ((ofInt i).negative = true ∧ (ofInt i).whole = 0) := by
    simp only [ofInt, decide_eq_true_eq]
    omega
  unfold toBounded?
  rw [hvalue, if_pos ⟨rfl, hsign, hlow, hhigh⟩]

theorem toUnsigned?_toNat (n : UInt64) : (ofInt n.toNat).toUnsigned? = some n := by
  have hsign : (ofInt n.toNat).negative = false := by simp [ofInt]
  have hwhole : (ofInt n.toNat).whole = n.toNat := by simp [ofInt]
  unfold toUnsigned?
  rw [if_pos ⟨rfl, hsign, hwhole ▸ n.toNat_lt⟩, hwhole, UInt64.ofNat_toNat]

/-- A machine integer is read back from its numeral. -/
theorem toSigned?_toInt (i : Int64) : (ofInt i.toInt).toSigned? = some i := by
  rw [toSigned?, toBounded?_ofInt _ _ _ i.minValue_le_toInt i.toInt_le, Option.map_some,
    Int64.ofInt_toInt]

end Numeral

end PropertyGraph
