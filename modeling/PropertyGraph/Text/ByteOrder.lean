import Mathlib.Algebra.Group.Nat.Defs

/-!
# Strings in the order of their bytes

Strings are compared character by character here, and elsewhere they are often compared by the
bytes of their text in UTF-8.  The two orders are the same.  Of two different characters the smaller
one has the smaller bytes: the first byte tells how many follow, and more follow for greater
characters; with as many bytes both are numbers in base 64, written from the front.

* `utf8EncodeChar_eq` — the bytes of a character, as a first byte and digits in base 64;
* `utf8EncodeChar_append_lt` — the bytes of a smaller character come first, whatever follows them;
* `utf8Bytes_lt_iff` — the bytes are ordered as the strings are.
-/

namespace PropertyGraph

/-- The bytes of a string in UTF-8. -/
def utf8Bytes (s : String) : List UInt8 := s.toUTF8.data.toList

theorem utf8Bytes_eq (s : String) : utf8Bytes s = s.toList.flatMap String.utf8EncodeChar := by
  have h : s.toByteArray = (s.toList.flatMap String.utf8EncodeChar).toByteArray :=
    String.utf8Encode_toList.symm
  rw [utf8Bytes, String.toUTF8_eq_toByteArray, h, List.data_toByteArray]

/-! ## Characters -/

/-- How many bytes follow the first one of a code point. -/
def followers (n : Nat) : Nat :=
  if n ≤ 0x7F then 0 else if n ≤ 0x7FF then 1 else if n ≤ 0xFFFF then 2 else 3

/-- The mark in a first byte that so many others follow. -/
def leadMark : Nat → Nat
  | 0 => 0
  | 1 => 0xC0
  | 2 => 0xE0
  | _ => 0xF0

/-- The first byte of a code point: the mark and the digits that the other bytes leave. -/
def leadByte (n : Nat) : Nat := leadMark (followers n) + n / 64 ^ followers n

/-- The last `k` digits of a number in base 64, as bytes that follow a first one. -/
def followingBytes : Nat → Nat → List UInt8
  | 0, _ => []
  | k + 1, n => followingBytes k (n / 64) ++ [UInt8.ofNat (n % 64 + 0x80)]

theorem codePoint_lt (c : Char) : c.toNat < 0x110000 := by
  have hvalid := c.valid
  simp only [UInt32.isValidChar, Nat.isValidChar] at hvalid
  show c.val.toNat < _
  omega

theorem utf8EncodeChar_eq (c : Char) :
    String.utf8EncodeChar c =
      UInt8.ofNat (leadByte c.toNat) :: followingBytes (followers c.toNat) c.toNat := by
  have hmax := codePoint_lt c
  have hval : c.val.toNat = c.toNat := rfl
  simp only [String.utf8EncodeChar, hval, leadByte, followers]
  generalize c.toNat = n at hmax ⊢
  -- The first byte has room for all that the following digits leave.
  by_cases h1 : n ≤ 0x7F
  · simp [leadMark, followingBytes, h1]
  by_cases h2 : n ≤ 0x7FF
  · have hlead : n / 64 % 32 + 192 = 192 + n / 64 := by omega
    simp [leadMark, followingBytes, h1, h2, hlead]
  by_cases h3 : n ≤ 0xFFFF
  · have hlead : n / 4096 % 16 + 224 = 224 + n / 4096 := by omega
    simp [leadMark, followingBytes, h1, h2, h3, hlead]
  · have hlead : n / 262144 % 8 + 240 = 240 + n / 262144 := by omega
    simp [leadMark, followingBytes, h1, h2, h3, hlead, Nat.div_div_eq_div_mul]

theorem followers_cases (n : Nat) :
    (n ≤ 0x7F ∧ followers n = 0) ∨ (0x7F < n ∧ n ≤ 0x7FF ∧ followers n = 1) ∨
      (0x7FF < n ∧ n ≤ 0xFFFF ∧ followers n = 2) ∨ (0xFFFF < n ∧ followers n = 3) := by
  unfold followers
  repeat' split
  all_goals omega

theorem leadByte_lt {n : Nat} (h : n < 0x110000) : leadByte n < 256 := by
  rcases followers_cases n with ⟨_, hn⟩ | ⟨_, _, hn⟩ | ⟨_, _, hn⟩ | ⟨_, hn⟩ <;>
    simp only [leadByte, hn, leadMark] <;> omega

/-- The first byte tells how many follow: where more do, it is greater. -/
theorem leadByte_lt_or_followers_eq {m n : Nat} (h : m < n) :
    leadByte m < leadByte n ∨ followers m = followers n := by
  rcases followers_cases m with ⟨_, hm⟩ | ⟨_, _, hm⟩ | ⟨_, _, hm⟩ | ⟨_, hm⟩ <;>
    rcases followers_cases n with ⟨_, hn⟩ | ⟨_, _, hn⟩ | ⟨_, _, hn⟩ | ⟨_, hn⟩ <;>
      simp only [leadByte, hm, hn, leadMark, or_true] <;> omega

theorem cons_lt_cons_of_toNat_lt {a b : Nat} (h : a < b) (hb : b < 256) (x y : List UInt8) :
    UInt8.ofNat a :: x < UInt8.ofNat b :: y := by
  rw [List.cons_lt_cons_iff, UInt8.lt_iff_toNat_lt,
    UInt8.toNat_ofNat_of_lt' (show a < UInt8.size from Nat.lt_trans h hb),
    UInt8.toNat_ofNat_of_lt' hb]
  exact Or.inl h

/-- With as many bytes, the smaller number comes first. -/
theorem append_lt_of_lt {mark : Nat} (k : Nat) {m n : Nat} (h : m < n)
    (hn : mark + n / 64 ^ k < 256) (x y : List UInt8) :
    (UInt8.ofNat (mark + m / 64 ^ k) :: followingBytes k m) ++ x <
      (UInt8.ofNat (mark + n / 64 ^ k) :: followingBytes k n) ++ y := by
  induction k generalizing m n x y with
  | zero => exact cons_lt_cons_of_toNat_lt (by simpa using h) hn _ _
  | succ k ih =>
    have hdiv : ∀ i, i / 64 ^ (k + 1) = i / 64 / 64 ^ k := fun i => by
      rw [Nat.pow_succ, Nat.mul_comm, Nat.div_div_eq_div_mul]
    simp only [hdiv, followingBytes, List.cons_append, List.append_assoc] at hn ⊢
    rcases Nat.lt_or_eq_of_le (Nat.div_le_div_right (c := 64) (Nat.le_of_lt h)) with hlt | heq
    · exact ih hlt hn _ _
    · rw [heq, ← List.cons_append, ← List.cons_append]
      exact List.append_left_lt (cons_lt_cons_of_toNat_lt (by omega) (by omega) _ _)

/-- **The bytes of a smaller character come first**, whatever follows on either side. -/
theorem utf8EncodeChar_append_lt {c d : Char} (h : c < d) (x y : List UInt8) :
    String.utf8EncodeChar c ++ x < String.utf8EncodeChar d ++ y := by
  have hlt : c.toNat < d.toNat := h
  have hmax := codePoint_lt d
  rw [utf8EncodeChar_eq, utf8EncodeChar_eq]
  generalize c.toNat = m at hlt ⊢
  generalize d.toNat = n at hlt hmax ⊢
  rcases leadByte_lt_or_followers_eq hlt with hlead | heq
  · exact cons_lt_cons_of_toNat_lt hlead (leadByte_lt hmax) _ _
  · rw [leadByte, heq]
    exact append_lt_of_lt _ hlt (leadByte_lt hmax) x y

/-! ## Strings -/

theorem utf8EncodeChar_flatMap_lt {l m : List Char} (h : l < m) :
    l.flatMap String.utf8EncodeChar < m.flatMap String.utf8EncodeChar := by
  induction l generalizing m with
  | nil =>
    cases m with
    | nil => exact absurd h (List.lt_irrefl [])
    | cons d m =>
      rw [List.flatMap_cons, utf8EncodeChar_eq]
      exact List.nil_lt_cons _ _
  | cons c l ih =>
    cases m with
    | nil => exact absurd h (List.not_lt_nil _)
    | cons d m =>
      rw [List.flatMap_cons, List.flatMap_cons]
      rcases List.cons_lt_cons_iff.1 h with hlt | ⟨rfl, hlt⟩
      · exact utf8EncodeChar_append_lt hlt _ _
      · exact List.append_left_lt (ih hlt)

/-- **The bytes are ordered as the strings are.** -/
theorem utf8Bytes_lt_iff (s t : String) : utf8Bytes s < utf8Bytes t ↔ compare s t = .lt := by
  have hmono : ∀ {a b : String}, compare a b = .lt → utf8Bytes a < utf8Bytes b := by
    intro a b h
    have hlt : a.toList < b.toList := (compareOfLessAndEq_eq_lt (x := a) (y := b)).1 h
    rw [utf8Bytes_eq, utf8Bytes_eq]
    exact utf8EncodeChar_flatMap_lt hlt
  refine ⟨fun h => ?_, hmono⟩
  cases hcompare : compare s t with
  | lt => rfl
  | eq =>
    rw [Std.LawfulEqCmp.eq_of_compare hcompare] at h
    exact absurd h (List.lt_irrefl _)
  | gt => exact absurd h (List.lt_asymm (hmono (Std.OrientedCmp.gt_iff_lt.1 hcompare)))

end PropertyGraph
