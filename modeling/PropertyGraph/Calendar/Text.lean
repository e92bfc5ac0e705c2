import PropertyGraph.Calendar.Timestamp
import PropertyGraph.Number.Digit

/-!
# The text of dates and times

A date is written as year, month and day with hyphens between them.  The year has at least four
digits; a year beyond 9999 and a year before zero show their sign.  A time of day shows a
fraction of three, six or nine digits, the fewest that are exact, and none when it is zero.

* `Timestamp.chars_shown` — a timestamp is written as the one that a clock shows.
-/

namespace PropertyGraph

/-- The text of a year. -/
def yearChars (year : Int) : List Char :=
  if 0 ≤ year ∧ year ≤ 9999 then padded 4 year.toNat
  else (if year < 0 then '-' else '+') :: padded 4 year.natAbs

/-- The text of a date. -/
def Date.chars (d : Date) : List Char :=
  yearChars d.year ++ '-' :: (padded 2 d.month ++ '-' :: padded 2 d.day)

/-- The fraction of a second: the fewest of three, six or nine digits that are exact, and no
fraction for zero. -/
def fractionOfSecond (nano : Nat) : List Char :=
  if nano = 0 then []
  else if nano % 1000000 = 0 then '.' :: (lowDigits 3 (nano / 1000000)).map Digit.toChar
  else if nano % 1000 = 0 then '.' :: (lowDigits 6 (nano / 1000)).map Digit.toChar
  else '.' :: (lowDigits 9 nano).map Digit.toChar

/-- The text of a time of day. -/
def TimeOfDay.chars (t : TimeOfDay) : List Char :=
  padded 2 t.hour ++ ':' :: (padded 2 t.minute ++ ':' ::
    (padded 2 t.clockSecond ++ fractionOfSecond t.clockNano))

theorem TimeOfDay.chars_shown (t : TimeOfDay) : t.shown.chars = t.chars := by
  obtain ⟨hhour, hminute, hsecond, hnano⟩ := t.clock_shown
  rw [chars, chars, hhour, hminute, hsecond, hnano]

/-- The text of a timestamp, with a given character between the date and the time. -/
def Timestamp.chars (between : Char) (t : Timestamp) : List Char :=
  t.date.chars ++ between :: t.time.chars

theorem Timestamp.chars_shown (between : Char) (t : Timestamp) :
    t.shown.chars between = t.chars between := by
  rw [chars, chars, shown, t.time.chars_shown]

end PropertyGraph
