import PropertyGraph.Calendar.Date

/-!
# Times of day and timestamps

A time of day counts nanoseconds within its second.  They may run on to two thousand million: this
is how a leap second is held, as the rest of second fifty-nine, and it is written as second sixty.
Nothing keeps the nanoseconds from running on after another second.  Such a time is written as the
second after it, so what a clock shows is then another time with the same text.
A timestamp is a date with a time of day; whether it is local or in UTC is said where it is
used.

* `TimeOfDay.ofClock?` — the time with the seconds as a clock shows them, sixty included;
* `TimeOfDay.shown`, `TimeOfDay.ofClock?_clock` — the time that a clock shows;
* `TimeOfDay.shown_eq_self_iff` — it is the time itself unless the nanoseconds run on after a second
  other than fifty-nine;
* `Timestamp.earlier?` — the timestamp a number of minutes before.
-/

namespace PropertyGraph

/-- The nanoseconds of a second. -/
def nanosPerSecond : Nat := 1000000000

/-- There is such a time of day.  The nanoseconds may run on after any second. -/
def TimeOfDay.IsValid (hour minute second nano : Nat) : Prop :=
  hour < 24 ∧ minute < 60 ∧ second < 60 ∧ nano < 2 * nanosPerSecond

instance (hour minute second nano : Nat) : Decidable (TimeOfDay.IsValid hour minute second nano) :=
  inferInstanceAs (Decidable (_ ∧ _))

/-- A time of day. -/
structure TimeOfDay where
  hour : Nat
  minute : Nat
  second : Nat
  nano : Nat
  valid : TimeOfDay.IsValid hour minute second nano
  deriving DecidableEq

namespace TimeOfDay

/-- The time with these parts, if there is one. -/
def ofParts? (hour minute second nano : Nat) : Option TimeOfDay :=
  if h : IsValid hour minute second nano then some ⟨hour, minute, second, nano, h⟩ else none

theorem ofParts?_parts (t : TimeOfDay) : ofParts? t.hour t.minute t.second t.nano = some t :=
  dif_pos t.valid

/-- The time that a clock shows with `nano` nanoseconds past its second.  Second sixty is the
leap second after second fifty-nine. -/
def ofClock? (hour minute second nano : Nat) : Option TimeOfDay :=
  if second = 60 then ofParts? hour minute 59 (nano + nanosPerSecond)
  else if nano < nanosPerSecond then ofParts? hour minute second nano
  else none

/-- Whether the nanoseconds run on beyond the second, as in a leap second. -/
def isLeap (t : TimeOfDay) : Bool := decide (nanosPerSecond ≤ t.nano)

/-- The second that a clock shows. -/
def clockSecond (t : TimeOfDay) : Nat := if t.isLeap then t.second + 1 else t.second

/-- The nanoseconds past the second that a clock shows. -/
def clockNano (t : TimeOfDay) : Nat := t.nano % nanosPerSecond

theorem clockNano_lt (t : TimeOfDay) : t.clockNano < nanosPerSecond := Nat.mod_lt _ (by decide)

/-- The nanoseconds run on after second fifty-nine alone, as in the leap seconds that there are. -/
def LeapsAtSixty (t : TimeOfDay) : Prop := nanosPerSecond ≤ t.nano → t.second = 59

instance (t : TimeOfDay) : Decidable t.LeapsAtSixty := inferInstanceAs (Decidable (_ → _))

/-- If the nanoseconds run on after a second other than fifty-nine, a clock shows a time of the
second after it. -/
theorem isValid_clock {t : TimeOfDay} (h : ¬ t.LeapsAtSixty) :
    IsValid t.hour t.minute t.clockSecond t.clockNano := by
  obtain ⟨hhour, hminute, hsecond, _⟩ := t.valid
  obtain ⟨hleap, hother⟩ := Classical.not_imp.1 h
  have hnano := t.clockNano_lt
  have hclock : t.clockSecond = t.second + 1 := if_pos (decide_eq_true hleap)
  exact ⟨hhour, hminute, by omega, by omega⟩

/-- The time that a clock shows.  Only nanoseconds that run on after a second other than fifty-nine
are shown as those of another second. -/
def shown (t : TimeOfDay) : TimeOfDay :=
  if h : t.LeapsAtSixty then t else ⟨t.hour, t.minute, t.clockSecond, t.clockNano, isValid_clock h⟩

theorem shown_of_leapsAtSixty {t : TimeOfDay} (h : t.LeapsAtSixty) : t.shown = t := dif_pos h

theorem nano_shown_lt {t : TimeOfDay} (h : ¬ t.LeapsAtSixty) : t.shown.nano < nanosPerSecond := by
  rw [shown, dif_neg h]
  exact t.clockNano_lt

theorem leapsAtSixty_shown (t : TimeOfDay) : t.shown.LeapsAtSixty := by
  by_cases h : t.LeapsAtSixty
  · rw [shown_of_leapsAtSixty h]
    exact h
  · have hnano := nano_shown_lt h
    intro hleap
    omega

/-- **A clock shows the time itself unless its nanoseconds run on after a second other than
fifty-nine.** -/
theorem shown_eq_self_iff {t : TimeOfDay} : t.shown = t ↔ t.LeapsAtSixty := by
  constructor
  · intro heq
    rw [← heq]
    exact t.leapsAtSixty_shown
  · exact shown_of_leapsAtSixty

/-- What is shown is shown as it is. -/
theorem clock_shown (t : TimeOfDay) :
    t.shown.hour = t.hour ∧ t.shown.minute = t.minute ∧ t.shown.clockSecond = t.clockSecond ∧
      t.shown.clockNano = t.clockNano := by
  by_cases h : t.LeapsAtSixty
  · rw [shown_of_leapsAtSixty h]
    exact ⟨rfl, rfl, rfl, rfl⟩
  · have hplain : ¬ nanosPerSecond ≤ t.clockNano := Nat.not_le_of_lt t.clockNano_lt
    rw [shown, dif_neg h]
    refine ⟨rfl, rfl, ?_, Nat.mod_eq_of_lt t.clockNano_lt⟩
    simp [clockSecond, isLeap, hplain]

/-- **What a clock shows is read as the time it shows.** -/
theorem ofClock?_clock (t : TimeOfDay) :
    ofClock? t.hour t.minute t.clockSecond t.clockNano = some t.shown := by
  obtain ⟨_, _, hsecond, hnano⟩ := t.valid
  by_cases hsixty : t.LeapsAtSixty
  · have hparts := ofParts?_parts t
    rw [shown_of_leapsAtSixty hsixty]
    by_cases hleap : nanosPerSecond ≤ t.nano
    · have hrest : t.nano % nanosPerSecond + nanosPerSecond = t.nano := by
        simp only [nanosPerSecond] at *
        omega
      rw [hsixty hleap] at hparts
      simp [ofClock?, clockSecond, clockNano, isLeap, hleap, hsixty hleap, hrest, hparts]
    · have hlt : t.nano < nanosPerSecond := Nat.lt_of_not_le hleap
      have hne : ¬ t.second = 60 := by omega
      simp [ofClock?, clockSecond, clockNano, isLeap, hleap, hne, Nat.mod_eq_of_lt hlt, hlt, hparts]
  · -- The second after it is not sixty, so its nanoseconds are those of a second.
    obtain ⟨_, _, hclock, _⟩ := isValid_clock hsixty
    rw [ofClock?, if_neg (Nat.ne_of_lt hclock), if_pos t.clockNano_lt, ofParts?,
      dif_pos (isValid_clock hsixty), shown, dif_neg hsixty]

end TimeOfDay

/-- A date with a time of day. -/
structure Timestamp where
  date : Date
  time : TimeOfDay
  deriving DecidableEq

namespace Timestamp

/-- The nanoseconds run on after second fifty-nine alone. -/
def LeapsAtSixty (t : Timestamp) : Prop := t.time.LeapsAtSixty

instance (t : Timestamp) : Decidable t.LeapsAtSixty :=
  inferInstanceAs (Decidable t.time.LeapsAtSixty)

/-- The timestamp with the time that a clock shows. -/
def shown (t : Timestamp) : Timestamp := { t with time := t.time.shown }

theorem shown_eq_self_iff {t : Timestamp} : t.shown = t ↔ t.LeapsAtSixty := by
  rw [LeapsAtSixty, ← TimeOfDay.shown_eq_self_iff]
  constructor
  · exact congrArg Timestamp.time
  · intro htime
    rw [shown, htime]

/-- A time whose nanoseconds run on after second twenty-three. -/
def overrun : Timestamp := ⟨⟨2015, 6, 30, by decide⟩, ⟨20, 19, 23, 1000000000, by decide⟩⟩

/-- The second after it. -/
def nextSecond : Timestamp := ⟨⟨2015, 6, 30, by decide⟩, ⟨20, 19, 24, 0, by decide⟩⟩

theorem shown_overrun : overrun.shown = nextSecond := by decide

theorem nextSecond_ne_overrun : nextSecond ≠ overrun := by decide

/-- The minutes of a day. -/
def minutesPerDay : Int := 1440

/-- The timestamp `minutes` minutes earlier, for less than a day either way; the seconds, a leap
second included, stay as they are. -/
def earlier? (t : Timestamp) (minutes : Int) : Option Timestamp := do
  let minute : Int := t.time.hour * 60 + t.time.minute - minutes
  let date ←
    if minute < 0 then t.date.previous?
    else if minutesPerDay ≤ minute then t.date.next?
    else some t.date
  let inDay := (minute % minutesPerDay).toNat
  let time ← TimeOfDay.ofParts? (inDay / 60) (inDay % 60) t.time.second t.time.nano
  return ⟨date, time⟩

end Timestamp

end PropertyGraph
