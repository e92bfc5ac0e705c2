import PropertyGraph.Number.Digit
import PropertyGraph.Number.Shortest

/-!
# Numerals

A numeral is a number as it is written: a sign, a whole part without superfluous zeros, the
digits of a fraction and an exponent.  `Layout` says how a format turns a binary number into a
numeral: which exponents are written out, whether a whole number keeps a point, and whether a
positive exponent shows its sign.

* `Numeral.chars` — the text of a numeral;
* `Layout.numeral` — the numeral a format writes for a finite binary number;
* `isWhole_numeral`, `mem_chars_of_isWhole_eq_false` — where a whole number keeps its point, every
  number shows a point or an exponent.
-/

namespace PropertyGraph

/-- A number as it is written in decimal. -/
structure Numeral where
  negative : Bool
  whole : Nat
  fraction : List Digit
  exponent : Option Int
  deriving DecidableEq

namespace Numeral

/-- The numeral of an integer. -/
def ofInt (i : Int) : Numeral := ⟨decide (i < 0), i.natAbs, [], none⟩

/-- A numeral without fraction and exponent. -/
def isWhole (n : Numeral) : Bool := n.fraction.isEmpty && n.exponent.isNone

/-- The integer of a whole numeral. -/
def toInt (n : Numeral) : Int := if n.negative then -(n.whole : Int) else n.whole

/-- The characters of an exponent; `plus` says whether a positive one shows its sign. -/
def exponentChars (plus : Bool) : Option Int → List Char
  | none => []
  | some e =>
    'e' :: ((if e < 0 then ['-'] else if plus then ['+'] else []) ++ Nat.toDigits 10 e.natAbs)

/-- The characters of a fraction: none at all if it has no digits. -/
def fractionChars : List Digit → List Char
  | [] => []
  | d :: ds => '.' :: (d :: ds).map Digit.toChar

/-- The characters of a numeral; `plus` says whether a positive exponent shows its sign. -/
def chars (plus : Bool) (n : Numeral) : List Char :=
  (if n.negative then ['-'] else []) ++
    (Nat.toDigits 10 n.whole ++ (fractionChars n.fraction ++ exponentChars plus n.exponent))

/-- A numeral that is not whole shows a point or an exponent. -/
theorem mem_chars_of_isWhole_eq_false {n : Numeral} (h : n.isWhole = false) (plus : Bool) :
    '.' ∈ n.chars plus ∨ 'e' ∈ n.chars plus := by
  obtain ⟨negative, whole, fraction, exponent⟩ := n
  cases fraction with
  | cons d ds => exact .inl (by simp [chars, fractionChars])
  | nil =>
    cases exponent with
    | some e => exact .inr (by simp [chars, exponentChars])
    | none => cases h

end Numeral

/-- How a format writes finite binary numbers. -/
structure Layout where
  /-- which of two equally near shortest decimals is written -/
  tie : Tie
  /-- the exponents of the leading digit, least and greatest, that are written out with a point
  and zeros; a number outside them has an exponent; without bounds every number is written out -/
  writtenOut : Option (Int × Int)
  /-- whether a whole number that is written out ends in `.0` -/
  keepsPoint : Bool
  /-- whether a positive exponent shows its sign -/
  plus : Bool

namespace Layout

/-- A decimal written out: whole part and fraction digits. -/
def positional (l : Layout) (negative : Bool) (d : Decimal) : Numeral :=
  if 0 ≤ d.place then
    let fraction := if l.keepsPoint then [Digit.ofChar '0'] else []
    ⟨negative, d.digits * tenTo d.place.toNat, fraction, none⟩
  else
    let w := (-d.place).toNat
    ⟨negative, d.digits / tenTo w, lowDigits w d.digits, none⟩

/-- A decimal with one digit before the point and an exponent. -/
def scientific (negative : Bool) (d : Decimal) : Numeral :=
  let w := digitCount d.digits - 1
  ⟨negative, d.digits / tenTo w, lowDigits w d.digits, some (d.place + w)⟩

/-- The numeral of a finite number. -/
def numeral (l : Layout) (x : Binary64) : Numeral :=
  let d := x.shortest l.tie
  let leading : Int := d.place + digitCount d.digits - 1
  match l.writtenOut with
  | none => l.positional x.negative d
  | some (least, greatest) =>
    if d.digits = 0 ∨ (least ≤ leading ∧ leading ≤ greatest) then l.positional x.negative d
    else scientific x.negative d

theorem isWhole_positional {l : Layout} (h : l.keepsPoint = true) (negative : Bool) (d : Decimal) :
    (l.positional negative d).isWhole = false := by
  simp only [positional, h, if_true]
  split
  · rfl
  · rename_i hplace
    have hdigits : lowDigits (-d.place).toNat d.digits ≠ [] := by
      rw [← List.length_pos_iff, length_lowDigits]
      omega
    simp [Numeral.isWhole, hdigits]

/-- Where a whole number keeps its point, no number is taken for an integer. -/
theorem isWhole_numeral {l : Layout} (h : l.keepsPoint = true) (x : Binary64) :
    (l.numeral x).isWhole = false := by
  unfold numeral
  dsimp only
  split
  · exact isWhole_positional h _ _
  · split
    · exact isWhole_positional h _ _
    · simp [scientific, Numeral.isWhole]

/-- The text of any number: `NaN`, an infinity, or the numeral. -/
def chars (l : Layout) (x : Binary64) : List Char :=
  if x.isFinite then (l.numeral x).chars l.plus
  else if x.isNaN then ['N', 'a', 'N']
  else if x.negative then ['-', 'i', 'n', 'f']
  else ['i', 'n', 'f']

end Layout

end PropertyGraph
