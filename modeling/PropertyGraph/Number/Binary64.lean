/-!
# Binary floating-point numbers of 64 bits

A number is its word: one sign bit, eleven exponent bits and fifty-two fraction bits.  A word
whose exponent bits are not all ones stands for `± significand · 2 ^ scale`, and everything this
library does with such a number (comparing it, writing it in decimal, reading it from decimal) is
done exactly on these two integers.

* `Binary64.equals` — equality of numbers: the two zeros are equal, and no NaN equals anything;
* `Binary64.ofQuotient` — the number nearest to a quotient of natural numbers, a tie going to the
  even neighbour;
* `Binary64.times`, `Binary64.dividedBy` — products and quotients of magnitudes, rounded once.
-/

namespace PropertyGraph

/-- The powers of two. -/
def twoTo (k : Nat) : Nat := Nat.pow 2 k

/-- A binary floating-point number, held as its word. -/
structure Binary64 where
  word : UInt64
  deriving DecidableEq

namespace Binary64

/-- Whether the sign bit is set. -/
def negative (x : Binary64) : Bool := decide (twoTo 63 ≤ x.word.toNat)

/-- The eleven exponent bits. -/
def exponentBits (x : Binary64) : Nat := x.word.toNat / twoTo 52 % twoTo 11

/-- The fifty-two fraction bits. -/
def fractionBits (x : Binary64) : Nat := x.word.toNat % twoTo 52

/-- Neither an infinity nor a NaN. -/
def isFinite (x : Binary64) : Bool := x.exponentBits != 2047

/-- Not a number. -/
def isNaN (x : Binary64) : Bool := x.exponentBits == 2047 && x.fractionBits != 0

/-- Either zero. -/
def isZero (x : Binary64) : Bool := x.exponentBits == 0 && x.fractionBits == 0

/-- The integer factor of a finite number: its fraction bits, with the leading one that a normal
number does not store. -/
def significand (x : Binary64) : Nat :=
  if x.exponentBits = 0 then x.fractionBits else twoTo 52 + x.fractionBits

/-- The power of two that the significand of a finite number counts in. -/
def scale (x : Binary64) : Int := (max x.exponentBits 1 : Nat) - 1075

/-- The magnitude of a finite number as a quotient of natural numbers. -/
def numerator (x : Binary64) : Nat := x.significand * twoTo x.scale.toNat

/-- The denominator that belongs to `numerator`: a power of two. -/
def denominator (x : Binary64) : Nat := twoTo (-x.scale).toNat

/-- Equality of numbers: a NaN equals nothing, the two zeros equal each other, and any other
number equals itself alone. -/
def equals (x y : Binary64) : Bool :=
  !x.isNaN && !y.isNaN && (x.word == y.word || (x.isZero && y.isZero))

/-- The same magnitude with the sign bit set. -/
def negate (x : Binary64) : Binary64 := ⟨x.word ||| 0x8000000000000000⟩

/-- The positive zero. -/
def zero : Binary64 := ⟨0⟩

/-- The positive infinity. -/
def infinity : Binary64 := ⟨0x7ff0000000000000⟩

/-- A quotient rounded to the nearest natural number, a tie going to the even one. -/
def divideToEven (num den : Nat) : Nat :=
  let whole := num / den
  let twice := 2 * (num % den)
  if twice < den then whole
  else if den < twice then whole + 1
  else if whole % 2 = 0 then whole else whole + 1

/-- The number nearest to `num / den`, a tie going to the even significand; a quotient beyond
the greatest finite number gives the infinity.  The significand counts in the power of two that
leaves it fifty-three bits, or in the least power there is.  A carry out of the significand
moves into the exponent bits by itself, because both are parts of one sum. -/
def ofQuotient (num den : Nat) : Binary64 :=
  if num = 0 then zero else
  let guess : Int := (Nat.log2 num : Int) - (Nat.log2 den : Int)
  let exponent : Int :=
    if den * twoTo guess.toNat ≤ num * twoTo (-guess).toNat then guess else guess - 1
  let scale : Int := max (exponent - 52) (-1074)
  let significand := divideToEven (num * twoTo (-scale).toNat) (den * twoTo scale.toNat)
  let word := (scale + 1074).toNat * twoTo 52 + significand
  if infinity.word.toNat ≤ word then infinity else ⟨UInt64.ofNat word⟩

/-- The product of two finite magnitudes. -/
def times (x y : Binary64) : Binary64 :=
  ofQuotient (x.numerator * y.numerator) (x.denominator * y.denominator)

/-- The quotient of two finite magnitudes, the second of which is not zero. -/
def dividedBy (x y : Binary64) : Binary64 :=
  ofQuotient (x.numerator * y.denominator) (x.denominator * y.numerator)

/-- The number nearest to a natural number. -/
def ofNat (n : Nat) : Binary64 := ofQuotient n 1

end Binary64

end PropertyGraph
