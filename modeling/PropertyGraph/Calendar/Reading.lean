import PropertyGraph.Calendar.Timestamp
import PropertyGraph.Number.Digit
import PropertyGraph.Text.Blank

/-!
# Reading dates and times

The readers take what the library writes and some freedom beside it: blanks around the numbers,
months, days and clock times of one digit, years without leading zeros, and for a timestamp in
UTC a lower-case or blank separator and an offset in place of the `Z`.  Each part is a function
from a text to a value and the rest of the text; there is no value if the part is not there.

* `Date.read?` — a date alone;
* `Timestamp.readLocal?` — a date, the letter `T` and a time;
* `Timestamp.readUtc?` — a date, a separator, a time and an offset, moved to UTC.
-/

namespace PropertyGraph

namespace Calendar

/-- A natural number of at least `least` and at most `most` digits: as many as there are. -/
def readNumber (least most : Nat) (s : List Char) : Option (Nat × List Char) :=
  let ds := (s.take most).takeWhile Char.isDigit
  if ds.length < least then none else some (Nat.ofDigitChars 10 ds 0, s.drop ds.length)

/-- One given character; the value is of no interest. -/
def readChar (c : Char) : List Char → Option (Unit × List Char)
  | [] => none
  | d :: rest => if c = d then some ((), rest) else none

/-- A number of one or two digits after blanks. -/
def readPair (s : List Char) : Option (Nat × List Char) := readNumber 1 2 (skipBlanks s)

/-- A year after blanks: at most four digits, or any number of them after a sign. -/
def readYear (s : List Char) : Option (Int × List Char) :=
  match skipBlanks s with
  | '-' :: rest => (readNumber 1 rest.length rest).map fun (n, rest) => (-(n : Int), rest)
  | '+' :: rest => (readNumber 1 rest.length rest).map fun (n, rest) => ((n : Int), rest)
  | rest => (readNumber 1 4 rest).map fun (n, rest) => ((n : Int), rest)

/-- A date; blanks may stand before each number and hyphen. -/
def readDate (s : List Char) : Option (Date × List Char) := do
  let (year, s) ← readYear s
  let ((), s) ← readChar '-' (skipBlanks s)
  let (month, s) ← readPair s
  let ((), s) ← readChar '-' (skipBlanks s)
  let (day, s) ← readPair s
  let date ← Date.ofParts? year month day
  return (date, s)

/-- A fraction of a second in nanoseconds: a point and digits, of which nine count; no point,
no fraction. -/
def readFraction : List Char → Option (Nat × List Char)
  | '.' :: s => do
    let (_, rest) ← readNumber 1 9 s
    let ds := (s.take 9).takeWhile Char.isDigit
    return (Nat.ofDigitChars 10 ds 0 * tenTo (9 - ds.length), rest.dropWhile Char.isDigit)
  | s => some (0, s)

/-- A time of day; blanks may stand before each number and colon. -/
def readTime (s : List Char) : Option (TimeOfDay × List Char) := do
  let (hour, s) ← readPair s
  let ((), s) ← readChar ':' (skipBlanks s)
  let (minute, s) ← readPair s
  let ((), s) ← readChar ':' (skipBlanks s)
  let (second, s) ← readPair s
  let (nano, s) ← readFraction s
  let time ← TimeOfDay.ofClock? hour minute second nano
  return (time, s)

/-- An offset of less than a day in minutes east of UTC: a sign, two digits of hours, colons and
blanks at will, two digits of minutes. -/
def readSignedOffset (s : List Char) : Option (Int × List Char) := do
  let (east, s) ←
    match s with
    | '+' :: s => some (true, s)
    | '-' :: s => some (false, s)
    | '\u2212' :: s => some (false, s)
    | _ => none
  let (hours, s) ← readNumber 2 2 s
  let (minutes, s) ← readNumber 2 2 (s.dropWhile fun c => c == ':' || isBlank c)
  let offset := hours * 60 + minutes
  if minutes < 60 ∧ offset < 1440 then
    return (if east then (offset : Int) else -(offset : Int), s)
  else none

/-- An offset: `UTC` in any letters, `Z` or `z`, or a signed one. -/
def readOffset (s : List Char) : Option (Int × List Char) :=
  match s with
  | 'z' :: rest | 'Z' :: rest => some (0, rest)
  | a :: b :: c :: rest =>
    if a.toLower = 'u' ∧ b.toLower = 't' ∧ c.toLower = 'c' then some (0, rest)
    else readSignedOffset s
  | _ => none

/-- A whole text, blanks at its end aside. -/
def wholeText {α : Type} : Option (α × List Char) → Option α
  | some (a, rest) => if (skipBlanks rest).isEmpty then some a else none
  | none => none

end Calendar

open Calendar

/-- The date that a text spells. -/
def Date.read? (s : List Char) : Option Date := wholeText (readDate s)

/-- The local timestamp that a text spells; blanks may stand before the `T`. -/
def Timestamp.readLocal? (s : List Char) : Option Timestamp := wholeText do
  let (date, s) ← readDate s
  let ((), s) ← readChar 'T' (skipBlanks s)
  let (time, s) ← readTime s
  return (⟨date, time⟩, s)

/-- The timestamp in UTC that a text spells.  One separator follows the date at once; blanks may
stand before the offset. -/
def Timestamp.readUtc? (s : List Char) : Option Timestamp := do
  let (date, s) ← readDate s
  let s ←
    match s with
    | 't' :: s | 'T' :: s | ' ' :: s => some s
    | _ => none
  let (time, s) ← readTime s
  let offset ← wholeText (readOffset (skipBlanks s))
  Timestamp.earlier? ⟨date, time⟩ offset

end PropertyGraph
