import PropertyGraph.Proofs.Calendar.Spelling
import PropertyGraph.Value.Clock
import Std.Data.String.ToInt

/-!
# A scalar shows what it is

Scalars of different kinds are written with much the same characters: an integer and a date have
digits and hyphens, a timestamp has the colons of its time and perhaps a point, and so has a
number.  Still a few characters tell the kinds apart: the letters of the words, the letters behind
a time in UTC, the colons of a time, the point or the letters of a number that is not an integer,
and a hyphen that is no sign.  Within a kind a scalar is read back from its text, a timestamp as a
clock shows it.

* `DigitsOr` — the texts of digits and of a few other characters, with one lemma for each format;
* `shapeOf`, `shapeOf_text` — the kind of a scalar as its text shows it;
* `Scalar.shown_eq_of_text` — among all scalars and all numbers, scalars with one text are shown
  alike;
* `Scalar.noMarks` — no scalar has a character that structures a text.
-/

namespace PropertyGraph

/-! ## Characters of a text -/

/-- All characters are digits or among some others. -/
def DigitsOr (others s : List Char) : Prop := ∀ c ∈ s, c.isDigit = true ∨ c ∈ others

namespace DigitsOr

variable {others more s t : List Char} {c : Char}

theorem of_digits (h : ∀ c ∈ s, c.isDigit = true) : DigitsOr others s :=
  fun c hc => .inl (h c hc)

theorem of_mem (h : ∀ c ∈ s, c ∈ others) : DigitsOr others s := fun c hc => .inr (h c hc)

theorem append (hs : DigitsOr others s) (ht : DigitsOr others t) : DigitsOr others (s ++ t) := by
  intro c hc
  rcases List.mem_append.1 hc with hc | hc
  · exact hs c hc
  · exact ht c hc

theorem cons (hc : c ∈ others) (hs : DigitsOr others s) : DigitsOr others (c :: s) := by
  intro d hd
  rcases List.mem_cons.1 hd with hd | hd
  · exact .inr (hd ▸ hc)
  · exact hs d hd

theorem mono (hs : DigitsOr others s) (sub : others ⊆ more) : DigitsOr more s :=
  fun c hc => (hs c hc).imp id fun hmem => sub hmem

theorem not_mem (hs : DigitsOr others s) (hdigit : c.isDigit = false) (hc : c ∉ others) :
    c ∉ s := by
  intro hmem
  rcases hs c hmem with h | h
  · rw [hdigit] at h
    cases h
  · exact hc h

end DigitsOr

theorem digitsOr_padded (w n : Nat) (others : List Char) : DigitsOr others (padded w n) :=
  .of_digits fun _ hc => isDigit_of_mem_padded hc

theorem digitsOr_toDigits (n : Nat) (others : List Char) :
    DigitsOr others (Nat.toDigits 10 n) :=
  .of_digits fun _ hc => isDigit_of_mem_toDigits hc

theorem digitsOr_map_toChar (ds : List Digit) (others : List Char) :
    DigitsOr others (ds.map Digit.toChar) := by
  intro c hc
  obtain ⟨d, _, rfl⟩ := List.mem_map.1 hc
  exact .inl (Digit.isDigit_toChar d)

/-! ## Dates and times -/

theorem digitsOr_yearChars (year : Int) : DigitsOr ['-', '+'] (yearChars year) := by
  unfold yearChars
  split
  · exact digitsOr_padded _ _ _
  · split
    · exact .cons (by simp) (digitsOr_padded _ _ _)
    · exact .cons (by simp) (digitsOr_padded _ _ _)

theorem yearChars_ne_nil (year : Int) : yearChars year ≠ [] := by
  unfold yearChars
  split
  · exact padded_ne_nil 4 _
  · exact List.cons_ne_nil _ _

theorem Date.digitsOr_chars (d : Date) : DigitsOr ['-', '+'] d.chars := by
  have hday : DigitsOr ['-', '+'] ('-' :: padded 2 d.day) := .cons (by simp) (digitsOr_padded _ _ _)
  have hmonth : DigitsOr ['-', '+'] ('-' :: (padded 2 d.month ++ '-' :: padded 2 d.day)) :=
    .cons (by simp) ((digitsOr_padded _ _ _).append hday)
  exact (digitsOr_yearChars d.year).append hmonth

/-- A date has a hyphen that is no sign. -/
theorem Date.mem_tail_chars (d : Date) : '-' ∈ d.chars.tail := by
  have hyear := yearChars_ne_nil d.year
  unfold chars
  cases htext : yearChars d.year with
  | nil => exact absurd htext hyear
  | cons c cs => simp

theorem digitsOr_fractionOfSecond (nano : Nat) : DigitsOr ['.'] (fractionOfSecond nano) := by
  have hpoint : ∀ ds : List Digit, DigitsOr ['.'] ('.' :: ds.map Digit.toChar) :=
    fun ds => .cons (by simp) (digitsOr_map_toChar ds _)
  unfold fractionOfSecond
  split
  · exact .of_mem (by simp)
  split
  · exact hpoint _
  split
  · exact hpoint _
  · exact hpoint _

theorem TimeOfDay.digitsOr_chars (t : TimeOfDay) : DigitsOr [':', '.'] t.chars := by
  have hfraction : DigitsOr [':', '.'] (fractionOfSecond t.clockNano) :=
    (digitsOr_fractionOfSecond _).mono (by simp)
  have hsecond := (digitsOr_padded 2 t.clockSecond [':', '.']).append hfraction
  have hminute := (digitsOr_padded 2 t.minute [':', '.']).append (.cons (c := ':') (by simp) hsecond)
  exact (digitsOr_padded _ _ _).append (.cons (by simp) hminute)

theorem Timestamp.digitsOr_chars (t : Timestamp) :
    DigitsOr ['-', '+', ' ', ':', '.'] (t.chars ' ') :=
  (t.date.digitsOr_chars.mono (by simp)).append
    (.cons (by simp) (t.time.digitsOr_chars.mono (by simp)))

theorem Timestamp.colon_mem_chars (t : Timestamp) : ':' ∈ t.chars ' ' := by
  simp [chars, TimeOfDay.chars]

open Calendar in
/-- Timestamps with one text are shown alike, whatever character stands before their times. -/
theorem Timestamp.shown_eq_of_chars {between : Char} {t u : Timestamp}
    (h : t.chars between = u.chars between) : t.shown = u.shown := by
  have hdates := congrArg readDate h
  rw [chars, chars, readDate_chars, readDate_chars] at hdates
  obtain ⟨hdate, hrest⟩ := Prod.mk.inj (Option.some.inj hdates)
  have htimes := congrArg (fun s => readTime (s ++ [])) (List.cons.inj hrest).2
  simp only [readTime_chars _ endsSecond_nil] at htimes
  have htime := (Prod.mk.inj (Option.some.inj htimes)).1
  rw [shown, shown, hdate, htime]

theorem Date.chars_inj {d e : Date} (h : d.chars = e.chars) : d = e := by
  have hread := congrArg Date.read? h
  rw [read?_chars, read?_chars] at hread
  exact Option.some.inj hread

/-! ## Numbers -/

theorem toList_repr_int (i : Int) :
    i.repr.toList = (if i < 0 then ['-'] else []) ++ Nat.toDigits 10 i.natAbs := by
  rw [Int.repr_eq_if]
  by_cases h : i < 0
  · have hneg : ¬ 0 ≤ i := by omega
    have habs : (-i).toNat = i.natAbs := by omega
    rw [if_neg hneg, if_pos h, String.toList_append, Nat.toList_repr, habs]
    rfl
  · have hpos : 0 ≤ i := by omega
    have habs : i.toNat = i.natAbs := by omega
    rw [if_pos hpos, if_neg h, Nat.toList_repr, habs]
    rfl

theorem digitsOr_repr_int (i : Int) : DigitsOr ['-'] i.repr.toList := by
  rw [toList_repr_int]
  refine .append (.of_mem ?_) (digitsOr_toDigits _ _)
  split <;> simp

/-- The hyphen of an integer is its sign. -/
theorem not_mem_tail_repr_int (i : Int) : '-' ∉ i.repr.toList.tail := by
  have hdigits : '-' ∉ Nat.toDigits 10 i.natAbs :=
    (digitsOr_toDigits _ []).not_mem (by decide) (by simp)
  rw [toList_repr_int]
  split
  · exact hdigits
  · exact fun hmem => hdigits (List.mem_of_mem_tail hmem)

theorem Numeral.digitsOr_exponentChars (exponent : Option Int) :
    DigitsOr ['-', 'e'] (exponentChars false exponent) := by
  cases exponent with
  | none => exact .of_mem (by simp [exponentChars])
  | some e =>
    refine .cons (by simp) (.append (.of_mem ?_) (digitsOr_toDigits _ _))
    split <;> simp

theorem Numeral.digitsOr_chars (n : Numeral) : DigitsOr ['-', '.', 'e'] (n.chars false) := by
  have hfraction : DigitsOr ['-', '.', 'e'] (fractionChars n.fraction) := by
    cases n.fraction with
    | nil => exact .of_mem (by simp [fractionChars])
    | cons d ds => exact .cons (by simp) (digitsOr_map_toChar _ _)
  have hexponent : DigitsOr ['-', '.', 'e'] (exponentChars false n.exponent) :=
    (digitsOr_exponentChars n.exponent).mono (by simp)
  refine .append (.of_mem ?_) ((digitsOr_toDigits _ _).append (hfraction.append hexponent))
  split <;> simp

theorem digitsOr_textLayout (x : Binary64) :
    DigitsOr ['-', '.', 'e', 'N', 'a', 'i', 'n', 'f'] (textLayout.chars x) := by
  unfold Layout.chars
  split
  · exact (Numeral.digitsOr_chars _).mono (by simp)
  split
  · exact .of_mem (by simp)
  split
  · exact .of_mem (by simp)
  · exact .of_mem (by simp)

/-- A number that is no integer shows it. -/
theorem mem_textLayout (x : Binary64) :
    '.' ∈ textLayout.chars x ∨ 'e' ∈ textLayout.chars x ∨ 'N' ∈ textLayout.chars x ∨
      'i' ∈ textLayout.chars x := by
  unfold Layout.chars
  split
  · have hpoint := Numeral.mem_chars_of_isWhole_eq_false
      (Layout.isWhole_numeral (l := textLayout) rfl x) false
    rcases hpoint with h | h
    · exact .inl h
    · exact .inr (.inl h)
  split
  · simp
  split
  · simp
  · simp

/-! ## Kinds -/

/-- The kinds of scalars that a text can show. -/
inductive Shape where
  | word
  | whole
  | fractional
  | day
  | localTime
  | utcTime
  deriving DecidableEq

/-- The kind of scalar that a text shows by its characters. -/
def shapeOf (s : List Char) : Shape :=
  if 'U' ∈ s then .utcTime
  else if ':' ∈ s then .localTime
  else if 'u' ∈ s ∨ 'l' ∈ s then .word
  else if '.' ∈ s ∨ 'e' ∈ s ∨ 'N' ∈ s ∨ 'i' ∈ s then .fractional
  else if '-' ∈ s.tail then .day
  else .whole

/-- Digits and signs make an integer or a date. -/
theorem shapeOf_digits_and_signs {s : List Char} (h : DigitsOr ['-', '+'] s) :
    shapeOf s = if '-' ∈ s.tail then .day else .whole := by
  have hletters : ∀ c ∈ ['U', ':', 'u', 'l', '.', 'e', 'N', 'i'],
      c.isDigit = false ∧ c ∉ ['-', '+'] := by simp
  have hnone : ∀ c ∈ ['U', ':', 'u', 'l', '.', 'e', 'N', 'i'], c ∉ s :=
    fun c hc => h.not_mem (hletters c hc).1 (hletters c hc).2
  simp only [List.forall_mem_cons] at hnone
  simp [shapeOf, hnone]

namespace Value

/-- The scalars that have a text of their own. -/
inductive Scalar : Value → Prop
  | null : Scalar .null
  | bool (b : Bool) : Scalar (.bool b)
  | int (i : Int64) : Scalar (.int i)
  | date (d : Date) : Scalar (.date d)
  | dateTime (t : Timestamp) : Scalar (.dateTime t)
  | localDateTime (t : Timestamp) : Scalar (.localDateTime t)

/-- A scalar or a floating-point number. -/
inductive ScalarOrFloat : Value → Prop
  | scalar {v : Value} : Scalar v → ScalarOrFloat v
  | float (x : Binary64) : ScalarOrFloat (.float x)

/-- The kind of a scalar. -/
def shape? : Value → Option Shape
  | .null => some .word
  | .bool _ => some .word
  | .int _ => some .whole
  | .float _ => some .fractional
  | .date _ => some .day
  | .dateTime _ => some .utcTime
  | .localDateTime _ => some .localTime
  | _ => none

theorem toList_text_int (i : Int64) : (Value.int i).text.toList = i.toInt.repr.toList := rfl

theorem toList_text_float (x : Binary64) : (Value.float x).text.toList = textLayout.chars x := by
  simp [text]

theorem toList_text_date (d : Date) : (Value.date d).text.toList = d.chars := by
  simp [text, display]

theorem toList_text_localDateTime (t : Timestamp) :
    (Value.localDateTime t).text.toList = t.chars ' ' := by
  simp [text, display]

theorem toList_text_dateTime (t : Timestamp) :
    (Value.dateTime t).text.toList = t.chars ' ' ++ [' ', 'U', 'T', 'C'] := by
  simp [text, display]

/-- **The text of a scalar shows its kind.** -/
theorem shapeOf_text {v : Value} (h : ScalarOrFloat v) :
    v.shape? = some (shapeOf v.text.toList) := by
  cases h with
  | float x =>
    have hchars := digitsOr_textLayout x
    have hutc := hchars.not_mem (c := 'U') (by decide) (by decide)
    have hcolon := hchars.not_mem (c := ':') (by decide) (by decide)
    have hu := hchars.not_mem (c := 'u') (by decide) (by decide)
    have hl := hchars.not_mem (c := 'l') (by decide) (by decide)
    simp [toList_text_float, shapeOf, shape?, hutc, hcolon, hu, hl, mem_textLayout x]
  | scalar h =>
    cases h with
    | null => decide
    | bool b => cases b <;> decide
    | int i =>
      rw [toList_text_int, shapeOf_digits_and_signs ((digitsOr_repr_int _).mono (by simp)),
        if_neg (not_mem_tail_repr_int _), shape?]
    | date d =>
      rw [toList_text_date, shapeOf_digits_and_signs d.digitsOr_chars, if_pos d.mem_tail_chars,
        shape?]
    | dateTime t => simp [toList_text_dateTime, shapeOf, shape?]
    | localDateTime t =>
      have hutc := t.digitsOr_chars.not_mem (c := 'U') (by decide) (by decide)
      simp [toList_text_localDateTime, shapeOf, shape?, hutc, t.colon_mem_chars]

/-- **Scalars with one text are shown alike**, and no floating-point number has the text of one. -/
theorem Scalar.shown_eq_of_text {v w : Value} (hv : Scalar v) (hw : ScalarOrFloat w)
    (h : v.text = w.text) : v.shown = w.shown := by
  have hshape : v.shape? = w.shape? := by
    rw [shapeOf_text (.scalar hv), shapeOf_text hw, h]
  have hchars := congrArg String.toList h
  cases hw with
  | float x => cases hv <;> cases hshape
  | scalar hw =>
    -- Apart from the words, scalars of one kind have one constructor.
    cases hv with
    | null =>
      cases hw with
      | null => rfl
      | bool b => cases b <;> exact absurd h (by decide)
      | _ => cases hshape
    | bool b =>
      cases hw with
      | null => cases b <;> exact absurd h (by decide)
      | bool c => cases b <;> cases c <;> first | rfl | exact absurd h (by decide)
      | _ => cases hshape
    | int i =>
      cases hw with
      | int j => rw [Int64.toInt_inj.1 (Int.repr_injective h)]
      | _ => cases hshape
    | date d =>
      cases hw with
      | date e =>
        rw [toList_text_date, toList_text_date] at hchars
        rw [Date.chars_inj hchars]
      | _ => cases hshape
    | dateTime t =>
      cases hw with
      | dateTime u =>
        rw [toList_text_dateTime, toList_text_dateTime] at hchars
        have htime := Timestamp.shown_eq_of_chars (List.append_cancel_right hchars)
        rw [shown, shown, htime]
      | _ => cases hshape
    | localDateTime t =>
      cases hw with
      | localDateTime u =>
        rw [toList_text_localDateTime, toList_text_localDateTime] at hchars
        rw [shown, shown, Timestamp.shown_eq_of_chars hchars]
      | _ => cases hshape

/-! ## Marks -/

/-- The characters that structure a text with lists and strings in it. -/
def isMark (c : Char) : Bool := c ∈ ['[', ']', ',', '"', '\\']

theorem ne_of_isMark {c d : Char} (hc : isMark c = false) (hd : isMark d = true) : c ≠ d := by
  rintro rfl
  rw [hc] at hd
  cases hd

theorem isMark_of_digitsOr {others s : List Char} (h : DigitsOr others s)
    (hothers : ∀ c ∈ others, isMark c = false) : ∀ c ∈ s, isMark c = false := by
  intro c hc
  rcases h c hc with hdigit | hother
  · rw [Bool.eq_false_iff]
    intro hmark
    simp only [isMark, List.mem_cons, List.not_mem_nil, or_false, decide_eq_true_eq] at hmark
    rcases hmark with rfl | rfl | rfl | rfl | rfl <;> exact absurd hdigit (by decide)
  · exact hothers c hother

/-- **No scalar has a mark in its text**, and no floating-point number. -/
theorem ScalarOrFloat.noMarks {v : Value} (h : ScalarOrFloat v) :
    ∀ c ∈ v.text.toList, isMark c = false := by
  cases h with
  | float x =>
    rw [toList_text_float]
    exact isMark_of_digitsOr (digitsOr_textLayout x) (by simp [isMark])
  | scalar h =>
    cases h with
    | null => simp [text, display, isMark]
    | bool b => cases b <;> simp [text, display, isMark]
    | int i => exact isMark_of_digitsOr (digitsOr_repr_int _) (by simp [isMark])
    | date d =>
      rw [toList_text_date]
      exact isMark_of_digitsOr d.digitsOr_chars (by simp [isMark])
    | dateTime t =>
      rw [toList_text_dateTime]
      have hchars : DigitsOr ['-', '+', ' ', ':', '.', 'U', 'T', 'C']
          (t.chars ' ' ++ [' ', 'U', 'T', 'C']) :=
        (t.digitsOr_chars.mono (by simp)).append (.of_mem (by simp))
      exact isMark_of_digitsOr hchars (by simp [isMark])
    | localDateTime t =>
      rw [toList_text_localDateTime]
      exact isMark_of_digitsOr t.digitsOr_chars (by simp [isMark])

/-- No text of a scalar is empty. -/
theorem ScalarOrFloat.text_ne_nil {v : Value} (h : ScalarOrFloat v) : v.text.toList ≠ [] := by
  intro hnil
  -- The empty text would be one of an integer, and integers have digits.
  have hshape : v.shape? = some .whole := by
    rw [shapeOf_text h, hnil]
    rfl
  cases h with
  | float x => cases hshape
  | scalar h =>
    cases h with
    | int i =>
      rw [toList_text_int, toList_repr_int] at hnil
      exact Nat.toDigits_ne_nil (List.append_eq_nil_iff.1 hnil).2
    | _ => cases hshape

/-- What follows begins with a mark, if anything follows. -/
def MarkAhead (rest : List Char) : Prop := ∀ c ∈ rest.head?, isMark c = true

/-- A text without marks ends where the first mark stands. -/
theorem append_inj_of_markAhead {s t r u : List Char} (hs : ∀ c ∈ s, isMark c = false)
    (ht : ∀ c ∈ t, isMark c = false) (hr : MarkAhead r) (hu : MarkAhead u)
    (h : s ++ r = t ++ u) : s = t ∧ r = u := by
  have htake : ∀ {s r : List Char}, (∀ c ∈ s, isMark c = false) → MarkAhead r →
      (s ++ r).takeWhile (fun c => !isMark c) = s := by
    intro s r hs hr
    rw [List.takeWhile_append_of_pos (by simpa using hs)]
    cases r with
    | nil => simp
    | cons c r => simp [hr c (by simp)]
  have hst : s = t := by rw [← htake hs hr, h, htake ht hu]
  rw [hst] at h
  exact ⟨hst, List.append_cancel_left h⟩

/-- **What is shown of a scalar can be told from all scalars and numbers wherever a mark follows.**
-/
theorem Scalar.append_inj {v w : Value} {r u : List Char} (hv : Scalar v) (hw : ScalarOrFloat w)
    (hr : MarkAhead r) (hu : MarkAhead u) (h : v.text.toList ++ r = w.text.toList ++ u) :
    v.shown = w.shown ∧ r = u := by
  obtain ⟨htext, hrest⟩ :=
    append_inj_of_markAhead (ScalarOrFloat.scalar hv).noMarks hw.noMarks hr hu h
  exact ⟨hv.shown_eq_of_text hw (String.toList_inj.1 htext), hrest⟩

/-- A text of a scalar begins with a character that is no mark. -/
theorem ScalarOrFloat.text_head {v : Value} (h : ScalarOrFloat v) :
    ∃ c rest, v.text.toList = c :: rest ∧ isMark c = false := by
  cases htext : v.text.toList with
  | nil => exact absurd htext h.text_ne_nil
  | cons c rest =>
    refine ⟨c, rest, rfl, h.noMarks c ?_⟩
    rw [htext]
    exact List.mem_cons_self

/-- For people a scalar is written as it is in a snapshot. -/
theorem Scalar.display_eq {v : Value} (h : Scalar v) : v.display = v.text := by
  cases h <;> rfl

end Value

end PropertyGraph
