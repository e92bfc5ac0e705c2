import PropertyGraph.Number.Binary64
import PropertyGraph.Number.Digit

/-!
# The fewest digits that read back

Among the decimals that lie closer to a binary number than to its neighbours, the one with the
fewest digits is chosen, and among those the one nearest to the number.  Two decimals can be
equally near; which of them is taken is the caller's decision (`Tie`), because different formats
decide it differently.

The search walks the decimal grids of one, two, … seventeen digits.  On each grid only the two
points beside the number can be chosen: if any point of the grid reads back as the number, one
of these two does.

* `Binary64.shortest` — the chosen decimal of a finite number.
-/

namespace PropertyGraph

/-- A natural number times a power of ten. -/
structure Decimal where
  digits : Nat
  place : Int
  deriving DecidableEq

/-- The same number with one zero less at the end, if it ends in one. -/
def Decimal.trim (d : Decimal) : Decimal :=
  if d.digits % 10 = 0 then ⟨d.digits / 10, d.place + 1⟩ else d

/-- How the choice between two equally near decimals is made. -/
inductive Tie where
  /-- the greater one -/
  | up
  /-- the one whose last digit is even -/
  | toEven
  deriving DecidableEq

/-- The number of decimal digits of a natural number. -/
def digitCount (n : Nat) : Nat := (Nat.toDigits 10 n).length

namespace Binary64

/-- Four times the significand: the midpoints towards both neighbours are integers in this
unit. -/
def quarters (x : Binary64) : Nat := 4 * x.significand

/-- The lower end of the interval that reads back, in quarters.  Below a power of two the
neighbour is only half as far away. -/
def lowEnd (x : Binary64) : Nat :=
  if x.fractionBits = 0 ∧ 1 < x.exponentBits then x.quarters - 1 else x.quarters - 2

/-- The upper end of the interval that reads back, in quarters. -/
def highEnd (x : Binary64) : Nat := x.quarters + 2

/-- Multiplying a count of quarters by this, and dividing by `quarterDivisor`, gives the number of
units `10 ^ place`. -/
def quarterFactor (x : Binary64) (place : Int) : Nat :=
  twoTo (x.scale - 2).toNat * tenTo (-place).toNat

/-- The divisor that belongs to `quarterFactor`. -/
def quarterDivisor (x : Binary64) (place : Int) : Nat :=
  twoTo (2 - x.scale).toNat * tenTo place.toNat

/-- The power of ten of the leading digit of a nonzero number. -/
def leadingPlace (x : Binary64) : Int :=
  let num := x.quarters * x.quarterFactor 0
  let den := x.quarterDivisor 0
  if den ≤ num then (digitCount (num / den) : Int) - 1
  else -(digitCount ((den + num - 1) / num - 1) : Int)

/-- Whether `c · 10 ^ place` reads back as the number: it lies in the interval, whose ends belong
to it iff the significand is even. -/
def readsBack (x : Binary64) (place : Int) (c : Nat) : Bool :=
  let a := x.quarterFactor place
  let b := x.quarterDivisor place
  if x.significand % 2 = 0 then
    decide (x.lowEnd * a ≤ c * b) && decide (c * b ≤ x.highEnd * a)
  else
    decide (x.lowEnd * a < c * b) && decide (c * b < x.highEnd * a)

/-- The point of the grid `10 ^ place` that is taken for the number if both neighbours read
back: the nearer one, a tie going as `tie` says. -/
def nearer (tie : Tie) (x : Binary64) (place : Int) : Nat :=
  let num := x.quarters * x.quarterFactor place
  let den := x.quarterDivisor place
  let below := num / den
  let twice := 2 * (num % den)
  if twice < den then below
  else if den < twice then below + 1
  else match tie with
    | .up => below + 1
    | .toEven => if below % 2 = 0 then below else below + 1

/-- The point of the grid `10 ^ place` that reads back, if there is one. -/
def onGrid (tie : Tie) (x : Binary64) (place : Int) : Option Nat :=
  let below := x.quarters * x.quarterFactor place / x.quarterDivisor place
  match x.readsBack place below, x.readsBack place (below + 1) with
  | true, true => some (nearer tie x place)
  | true, false => some below
  | false, true => some (below + 1)
  | false, false => none

/-- The first grid with a point that reads back, from the grid of `count` digits on; after
`left` grids the next one is taken as it is. -/
def searchGrids (tie : Tie) (x : Binary64) : Nat → Nat → Decimal
  | 0, count =>
    let place := x.leadingPlace - count + 1
    ⟨nearer tie x place, place⟩
  | left + 1, count =>
    let place := x.leadingPlace - count + 1
    match onGrid tie x place with
    | some c => ⟨c, place⟩
    | none => searchGrids tie x left (count + 1)

/-- The decimal with the fewest digits that reads back as the magnitude of a finite number, and
of those the nearest.  The point taken on a grid ends in a zero only if it is the next power of
ten, which the grid of one digit has as its ten. -/
def shortest (tie : Tie) (x : Binary64) : Decimal :=
  if x.significand = 0 then ⟨0, 0⟩ else (searchGrids tie x 16 1).trim

end Binary64

end PropertyGraph
