/-!
# Decimal digits

Digits as numbers below ten, their characters, and the two ways of writing a natural number
that the formats of this library use: exactly `w` low digits (fractions) and at least `w` digits
(years, months, seconds).

* `Digit.ofChar_toChar` — a digit is read back from its character;
* `valueOf_lowDigits`, `length_lowDigits` — the low digits are the number modulo a power of ten;
* `ofDigitChars_padded`, `length_padded` — a padded number has its value, and the width asked for if
  it fits;
* `ofDigitChars_toChar` — characters of digits have the value of the digits;
* `digitRun_append` — a run of digits ends where something else follows.
-/

namespace PropertyGraph

/-- A decimal digit. -/
abbrev Digit := Fin 10

/-- The character of a digit. -/
def Digit.toChar (d : Digit) : Char := Nat.digitChar d.val

/-- The digit of a digit character. -/
def Digit.ofChar (c : Char) : Digit := Fin.ofNat 10 (c.toNat - '0'.toNat)

theorem Digit.ofChar_toChar : ∀ d : Digit, Digit.ofChar d.toChar = d := by decide

theorem Digit.isDigit_toChar : ∀ d : Digit, d.toChar.isDigit = true := by decide

/-- The powers of ten. -/
def tenTo (k : Nat) : Nat := Nat.pow 10 k

theorem tenTo_succ (k : Nat) : tenTo (k + 1) = tenTo k * 10 := rfl

/-- The number that a row of digits spells. -/
def valueOf (ds : List Digit) : Nat := ds.foldl (fun n d => 10 * n + d.val) 0

/-- The `w` lowest digits of a number, most significant first. -/
def lowDigits : Nat → Nat → List Digit
  | 0, _ => []
  | w + 1, n => lowDigits w (n / 10) ++ [Fin.ofNat 10 n]

theorem length_lowDigits (w n : Nat) : (lowDigits w n).length = w := by
  induction w generalizing n with
  | zero => rfl
  | succ w ih => simp [lowDigits, ih]

/-- The low digits spell the number modulo a power of ten. -/
theorem valueOf_lowDigits (w n : Nat) : valueOf (lowDigits w n) = n % tenTo w := by
  induction w generalizing n with
  | zero => exact (Nat.mod_one n).symm
  | succ w ih =>
    have h := ih (n / 10)
    simp only [valueOf] at h
    simp only [lowDigits, valueOf, List.foldl_append, List.foldl_cons, List.foldl_nil, h,
      Fin.ofNat]
    rw [tenTo_succ, Nat.mul_comm (tenTo w) 10, Nat.mod_mul]
    omega

/-- A number in decimal, with zeros in front if it has fewer than `w` digits. -/
def padded (w n : Nat) : List Char :=
  List.replicate (w - (Nat.toDigits 10 n).length) '0' ++ Nat.toDigits 10 n

theorem isDigit_of_mem_toDigits {n : Nat} {c : Char} (h : c ∈ Nat.toDigits 10 n) :
    c.isDigit = true :=
  Nat.isDigit_of_mem_toDigits (by decide) (by decide) h

theorem isDigit_of_mem_padded {w n : Nat} {c : Char} (h : c ∈ padded w n) : c.isDigit = true := by
  rcases List.mem_append.1 h with hzero | hdigit
  · rw [List.eq_of_mem_replicate hzero]
    decide
  · exact isDigit_of_mem_toDigits hdigit

theorem padded_ne_nil (w n : Nat) : padded w n ≠ [] := by
  intro h
  exact Nat.toDigits_ne_nil (List.append_eq_nil_iff.1 h).2

/-- Zeros in front do not change the number. -/
theorem ofDigitChars_padded (w n : Nat) : Nat.ofDigitChars 10 (padded w n) 0 = n := by
  rw [padded, Nat.ofDigitChars_append, Nat.ofDigitChars_replicate_zero, Nat.mul_zero,
    Nat.ofDigitChars_ten_toDigits]

/-- A number that fits has exactly the width asked for. -/
theorem length_padded {w n : Nat} (hw : 0 < w) (h : n < tenTo w) : (padded w n).length = w := by
  have hle := (Nat.length_toDigits_le_iff (b := 10) (by decide) hw).2 h
  rw [padded, List.length_append, List.length_replicate]
  omega

/-- Characters of digits spell the number that the digits spell. -/
theorem ofDigitChars_toChar (ds : List Digit) :
    Nat.ofDigitChars 10 (ds.map Digit.toChar) 0 = valueOf ds := by
  have hfrom : ∀ n, Nat.ofDigitChars 10 (ds.map Digit.toChar) n =
      ds.foldl (fun n d => 10 * n + d.val) n := by
    induction ds with
    | nil => exact fun n => rfl
    | cons d ds ih =>
      intro n
      rw [List.map_cons, Digit.toChar, Nat.ofDigitChars_cons_digitChar_of_lt_ten d.isLt, ih]
      rfl
  exact hfrom 0

/-- The digit characters at the start of a text, and what follows them. -/
def digitRun (s : List Char) : List Char × List Char :=
  (s.takeWhile Char.isDigit, s.dropWhile Char.isDigit)

/-- The text does not begin with a digit. -/
def NoDigitAhead (rest : List Char) : Prop := ∀ c ∈ rest.head?, c.isDigit = false

theorem noDigitAhead_nil : NoDigitAhead [] := by
  intro c hc
  cases hc

theorem noDigitAhead_cons {c : Char} (rest : List Char) (h : c.isDigit = false) :
    NoDigitAhead (c :: rest) := by
  intro d hd
  cases hd
  exact h

theorem NoDigitAhead.takeWhile_eq_nil {rest : List Char} (h : NoDigitAhead rest) :
    rest.takeWhile Char.isDigit = [] := by
  cases rest with
  | nil => rfl
  | cons c cs => simp [h c (by simp)]

theorem NoDigitAhead.dropWhile_eq_self {rest : List Char} (h : NoDigitAhead rest) :
    rest.dropWhile Char.isDigit = rest := by
  cases rest with
  | nil => rfl
  | cons c cs => simp [h c (by simp)]

/-- The digits of a run are taken, and only they. -/
theorem digitRun_append {ds rest : List Char} (hds : ∀ c ∈ ds, c.isDigit = true)
    (hrest : NoDigitAhead rest) : digitRun (ds ++ rest) = (ds, rest) := by
  rw [digitRun, List.takeWhile_append_of_pos hds, List.dropWhile_append_of_pos hds,
    hrest.takeWhile_eq_nil, hrest.dropWhile_eq_self, List.append_nil]

end PropertyGraph
