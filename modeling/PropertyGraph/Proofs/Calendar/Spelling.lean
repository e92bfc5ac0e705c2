import PropertyGraph.Calendar.Reading
import PropertyGraph.Calendar.Text

/-!
# Dates and times are read back

The text of a date or a time says what it was written for: years of any width with or without a
sign, fractions of a second of any length, leap seconds.  A time is read as the one that its clock
shows.  The parts are read back whatever follows them, as long as it cannot continue a number.

* `readNumber_append` — a number is read up to the end of its digits, or to its greatest width;
* `readYear_yearChars`, `readPair_padded`, `readFraction_fractionOfSecond` — the parts;
* `readDate_chars`, `readTime_chars` — a date and a time of day;
* `Date.read?_chars`, `Timestamp.readLocal?_chars`, `Timestamp.readUtc?_chars` — the whole texts.
-/

namespace PropertyGraph

namespace Calendar

/-! ## Numbers -/

section Digits

variable {ds rest : List Char} (hds : ∀ c ∈ ds, c.isDigit = true)

include hds

/-- Of digits and what follows them, the digits are taken if they fill the width or end there. -/
theorem takeWhile_take_append {most : Nat} (hmost : ds.length ≤ most)
    (hend : ds.length = most ∨ NoDigitAhead rest) :
    ((ds ++ rest).take most).takeWhile Char.isDigit = ds := by
  rw [List.take_append, List.take_of_length_le hmost, List.takeWhile_append_of_pos hds]
  have hnone : (rest.take (most - ds.length)).takeWhile Char.isDigit = [] := by
    rcases hend with hfull | hstop
    · simp [hfull]
    · cases hleft : most - ds.length with
      | zero => simp
      | succ k =>
        cases rest with
        | nil => rfl
        | cons c cs => simp [hstop c (by simp)]
  rw [hnone, List.append_nil]

theorem readNumber_append {least most : Nat} (hleast : least ≤ ds.length)
    (hmost : ds.length ≤ most) (hend : ds.length = most ∨ NoDigitAhead rest) :
    readNumber least most (ds ++ rest) = some (Nat.ofDigitChars 10 ds 0, rest) := by
  have hshort : ¬ ds.length < least := by omega
  simp only [readNumber, takeWhile_take_append hds hmost hend, if_neg hshort, List.drop_left]

theorem skipBlanks_digits (hne : ds ≠ []) : skipBlanks (ds ++ rest) = ds ++ rest := by
  cases ds with
  | nil => exact absurd rfl hne
  | cons c cs => exact skipBlanks_cons _ (isBlank_of_isDigit (hds c (by simp)))

/-- The digits of a fraction count from its point on. -/
theorem readFraction_point (hne : ds ≠ []) (hmost : ds.length ≤ 9) (hend : NoDigitAhead rest) :
    readFraction ('.' :: (ds ++ rest)) =
      some (Nat.ofDigitChars 10 ds 0 * tenTo (9 - ds.length), rest) := by
  have hleast : 1 ≤ ds.length := List.length_pos_iff.2 hne
  have hread := readNumber_append hds hleast hmost (.inr hend)
  have hrun := takeWhile_take_append hds hmost (.inr hend)
  simp [readFraction, hread, hrun, hend.dropWhile_eq_self]

end Digits

/-- A number of at most two digits, written with two. -/
theorem readPair_padded {n : Nat} (h : n < 100) (rest : List Char) :
    readPair (padded 2 n ++ rest) = some (n, rest) := by
  have hds : ∀ c ∈ padded 2 n, c.isDigit = true := fun c hc => isDigit_of_mem_padded hc
  have hlength : (padded 2 n).length = 2 := length_padded (by decide) (show n < 100 from h)
  rw [readPair, skipBlanks_digits hds (padded_ne_nil 2 n),
    readNumber_append hds (by omega) (by omega) (.inl hlength), ofDigitChars_padded]

theorem readChar_skipBlanks {c : Char} (h : isBlank c = false) (rest : List Char) :
    readChar c (skipBlanks (c :: rest)) = some ((), rest) := by
  rw [skipBlanks_cons rest h]
  exact if_pos rfl

/-- A year without a sign is read from its digits. -/
theorem readYear_digits {ds rest : List Char} (hds : ∀ c ∈ ds, c.isDigit = true) (hne : ds ≠ []) :
    readYear (ds ++ rest) =
      (readNumber 1 4 (ds ++ rest)).map fun (n, rest) => ((n : Int), rest) := by
  rw [readYear, skipBlanks_digits hds hne]
  cases ds with
  | nil => exact absurd rfl hne
  | cons c cs =>
    have hdigit := hds c (by simp)
    have hminus : c ≠ '-' := by
      rintro rfl
      exact absurd hdigit (by decide)
    have hplus : c ≠ '+' := by
      rintro rfl
      exact absurd hdigit (by decide)
    simp only [List.cons_append]
    split
    · rename_i heq
      exact absurd (List.cons.inj heq).1 hminus
    · rename_i heq
      exact absurd (List.cons.inj heq).1 hplus
    · rfl

/-- A year is read back with as many digits as it has. -/
theorem readYear_yearChars (year : Int) {rest : List Char} (hrest : NoDigitAhead rest) :
    readYear (yearChars year ++ rest) = some (year, rest) := by
  have hds : ∀ n, ∀ c ∈ padded 4 n, c.isDigit = true := fun n c hc => isDigit_of_mem_padded hc
  have hpos : ∀ n, 1 ≤ (padded 4 n).length := fun n => List.length_pos_iff.2 (padded_ne_nil 4 n)
  unfold yearChars
  by_cases hplain : 0 ≤ year ∧ year ≤ 9999
  · have hfour : year.toNat < 10000 := by omega
    have hlength : (padded 4 year.toNat).length = 4 := length_padded (by decide) hfour
    rw [if_pos hplain, readYear_digits (hds _) (padded_ne_nil 4 _),
      readNumber_append (hds _) (hpos _) (by omega) (.inr hrest), ofDigitChars_padded]
    simp only [Option.map_some, Option.some.injEq, Prod.mk.injEq, and_true]
    omega
  · -- After a sign the reader takes as many digits as there are.
    have hread : readNumber 1 (padded 4 year.natAbs ++ rest).length (padded 4 year.natAbs ++ rest) =
        some (year.natAbs, rest) := by
      rw [readNumber_append (hds _) (hpos _) (by simp) (.inr hrest), ofDigitChars_padded]
    rw [if_neg hplain]
    by_cases hneg : year < 0
    · rw [if_pos hneg, readYear, List.cons_append, skipBlanks_cons _ (by decide)]
      simp only [hread, Option.map_some, Option.some.injEq, Prod.mk.injEq, and_true]
      omega
    · rw [if_neg hneg, readYear, List.cons_append, skipBlanks_cons _ (by decide)]
      simp only [hread, Option.map_some, Option.some.injEq, Prod.mk.injEq, and_true]
      omega

/-! ## Dates and times -/

theorem daysInMonth_le (year : Int) (month : Nat) : daysInMonth year month ≤ 31 := by
  unfold daysInMonth
  split <;> first | omega | (split <;> omega)

theorem readDate_chars (d : Date) (rest : List Char) :
    readDate (d.chars ++ rest) = some (d, rest) := by
  obtain ⟨_, _, _, hmonth, _, hday⟩ := d.valid
  have hdays := daysInMonth_le d.year d.month
  have hyear := fun tail => readYear_yearChars d.year (noDigitAhead_cons (c := '-') tail (by decide))
  have hhyphen := fun tail => readChar_skipBlanks (c := '-') (by decide) tail
  have hmonths := fun tail => readPair_padded (n := d.month) (by omega) tail
  have hdaysRead := readPair_padded (n := d.day) (by omega) rest
  simp only [readDate, Date.chars, List.append_assoc, List.cons_append, hyear, hhyphen, hmonths,
    hdaysRead, Date.ofParts?_parts, Option.bind_eq_bind, Option.bind_some, Option.pure_def]

/-- What follows cannot continue a second: neither a digit nor a point stands there. -/
def EndsSecond (rest : List Char) : Prop := NoDigitAhead rest ∧ ∀ c ∈ rest.head?, c ≠ '.'

theorem endsSecond_nil : EndsSecond [] := ⟨noDigitAhead_nil, by simp⟩

theorem readFraction_of_no_point {rest : List Char} (h : ∀ c ∈ rest.head?, c ≠ '.') :
    readFraction rest = some (0, rest) := by
  unfold readFraction
  split
  · rename_i tail
    exact absurd rfl (h '.' (by simp))
  · rfl

/-- A fraction of three, six or nine digits is read back in nanoseconds. -/
theorem readFraction_lowDigits {w : Nat} (hpos : 0 < w) (hw : w ≤ 9) (n : Nat) {rest : List Char}
    (hrest : NoDigitAhead rest) :
    readFraction ('.' :: ((lowDigits w n).map Digit.toChar ++ rest)) =
      some (n % tenTo w * tenTo (9 - w), rest) := by
  have hds : ∀ c ∈ (lowDigits w n).map Digit.toChar, c.isDigit = true := by
    intro c hc
    obtain ⟨d, _, rfl⟩ := List.mem_map.1 hc
    exact Digit.isDigit_toChar d
  have hlength : ((lowDigits w n).map Digit.toChar).length = w := by
    rw [List.length_map, length_lowDigits]
  have hne : (lowDigits w n).map Digit.toChar ≠ [] := by
    intro hnil
    rw [hnil] at hlength
    exact absurd hlength (by simp; omega)
  rw [readFraction_point hds hne (by omega) hrest, ofDigitChars_toChar, valueOf_lowDigits, hlength]

theorem readFraction_fractionOfSecond {nano : Nat} (h : nano < nanosPerSecond) {rest : List Char}
    (hrest : EndsSecond rest) :
    readFraction (fractionOfSecond nano ++ rest) = some (nano, rest) := by
  obtain ⟨hdigit, hpoint⟩ := hrest
  simp only [nanosPerSecond] at h
  unfold fractionOfSecond
  by_cases hzero : nano = 0
  · rw [if_pos hzero, List.nil_append, readFraction_of_no_point hpoint, hzero]
  rw [if_neg hzero]
  by_cases hmilli : nano % 1000000 = 0
  · rw [if_pos hmilli, List.cons_append, readFraction_lowDigits (by decide) (by decide) _ hdigit]
    have hvalue : nano / 1000000 % tenTo 3 * tenTo (9 - 3) = nano := by
      show nano / 1000000 % 1000 * 1000000 = nano
      omega
    rw [hvalue]
  rw [if_neg hmilli]
  by_cases hmicro : nano % 1000 = 0
  · rw [if_pos hmicro, List.cons_append, readFraction_lowDigits (by decide) (by decide) _ hdigit]
    have hvalue : nano / 1000 % tenTo 6 * tenTo (9 - 6) = nano := by
      show nano / 1000 % 1000000 * 1000 = nano
      omega
    rw [hvalue]
  · rw [if_neg hmicro, List.cons_append, readFraction_lowDigits (by decide) (by decide) _ hdigit]
    have hvalue : nano % tenTo 9 * tenTo (9 - 9) = nano := by
      show nano % 1000000000 * 1 = nano
      omega
    rw [hvalue]

theorem readTime_chars (t : TimeOfDay) {rest : List Char} (hrest : EndsSecond rest) :
    readTime (t.chars ++ rest) = some (t.shown, rest) := by
  obtain ⟨hhour, hminute, hsecond, _⟩ := t.valid
  have hclock : t.clockSecond < 100 := by
    unfold TimeOfDay.clockSecond
    split <;> omega
  have hcolon := fun tail => readChar_skipBlanks (c := ':') (by decide) tail
  have hhours := fun tail => readPair_padded (n := t.hour) (by omega) tail
  have hminutes := fun tail => readPair_padded (n := t.minute) (by omega) tail
  have hseconds := fun tail => readPair_padded (n := t.clockSecond) hclock tail
  have hfraction := readFraction_fractionOfSecond t.clockNano_lt hrest
  simp only [readTime, TimeOfDay.chars, List.append_assoc, List.cons_append, hhours, hcolon,
    hminutes, hseconds, hfraction, TimeOfDay.ofClock?_clock, Option.bind_eq_bind,
    Option.bind_some, Option.pure_def]

end Calendar

open Calendar

/-- **A date is read back.** -/
theorem Date.read?_chars (d : Date) : Date.read? d.chars = some d := by
  have hread := readDate_chars d []
  rw [List.append_nil] at hread
  rw [Date.read?, hread]
  rfl

/-- **A local timestamp is read back** as its clock shows it. -/
theorem Timestamp.readLocal?_chars (t : Timestamp) :
    Timestamp.readLocal? (t.chars 'T') = some t.shown := by
  have htime := readTime_chars t.time endsSecond_nil
  rw [List.append_nil] at htime
  have hbetween := fun tail => readChar_skipBlanks (c := 'T') (by decide) tail
  simp only [Timestamp.readLocal?, Timestamp.chars, readDate_chars, hbetween, htime,
    Option.bind_eq_bind, Option.bind_some, Option.pure_def]
  rfl

theorem Timestamp.earlier?_zero (t : Timestamp) : t.earlier? 0 = some t := by
  obtain ⟨hhour, hminute, _, _⟩ := t.time.valid
  have hlow : ¬ ((t.time.hour : Int) * 60 + t.time.minute - 0 < 0) := by omega
  have hhigh : ¬ (1440 ≤ (t.time.hour : Int) * 60 + t.time.minute - 0) := by omega
  have hhours :
      (((t.time.hour : Int) * 60 + t.time.minute - 0) % 1440).toNat / 60 = t.time.hour := by omega
  have hminutes :
      (((t.time.hour : Int) * 60 + t.time.minute - 0) % 1440).toNat % 60 = t.time.minute := by omega
  simp only [earlier?, minutesPerDay, if_neg hlow, if_neg hhigh, hhours, hminutes,
    TimeOfDay.ofParts?_parts, Option.bind_eq_bind, Option.bind_some, Option.pure_def]

/-- **A timestamp in UTC is read back** as its clock shows it. -/
theorem Timestamp.readUtc?_chars (t : Timestamp) :
    Timestamp.readUtc? (t.chars 'T' ++ ['Z']) = some t.shown := by
  have hend : EndsSecond ['Z'] := by
    refine ⟨noDigitAhead_cons [] (by decide), ?_⟩
    intro c hc
    cases hc
    decide
  have htime := readTime_chars t.time hend
  have hzone : wholeText (readOffset (skipBlanks ['Z'])) = some 0 := by decide
  simp only [Timestamp.readUtc?, Timestamp.chars, List.append_assoc, List.cons_append,
    readDate_chars, htime, hzone, Timestamp.earlier?_zero, Option.bind_eq_bind, Option.bind_some]
  rfl

end PropertyGraph
