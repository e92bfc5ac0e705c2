import PropertyGraph.Json.Decoder
import PropertyGraph.Json.Grammar

/-!
# A text that spells a document is read as that document

The reader follows the grammar: whatever spelling of a document it is given, it finds the tree that
the document stands for, and it stops where the spelling ends.  So a decoder may be studied on the
trees of documents alone, both for texts from elsewhere and for what the library writes.

* `readNumeral_of_spells`, `readString_of_spells` — numbers and strings;
* `readTree_of_spells` — a document of any depth, whatever follows that does not continue a number;
* `ofText_of_spells`, `decodeText_of_spells` — a whole text that spells a document;
* `decodeText_text` — the same for the texts that the library writes.
-/

namespace PropertyGraph

namespace Json

/-! ## Numbers -/

/-- The text does not go on with a character that could continue a number. -/
def EndsNumber (rest : List Char) : Prop :=
  ∀ c ∈ rest.head?, c.isDigit = false ∧ c ≠ '.' ∧ c ≠ 'e' ∧ c ≠ 'E'

/-- Each mark of the grammar ends a number. -/
theorem endsNumber_cons {c : Char} (cs : List Char)
    (h : c.isDigit = false ∧ c ≠ '.' ∧ c ≠ 'e' ∧ c ≠ 'E') : EndsNumber (c :: cs) := by
  intro d hd
  cases hd
  exact h

theorem readFractionDigits_chars (ds : List Digit) {rest : List Char}
    (hrest : ∀ c ∈ rest.head?, c.isDigit = false ∧ c ≠ '.') :
    readFractionDigits (Numeral.fractionChars ds ++ rest) = some (ds, rest) := by
  cases ds with
  | nil =>
    cases rest with
    | nil => rfl
    | cons c cs =>
      have hc := (hrest c (by simp)).2
      simp only [Numeral.fractionChars, List.nil_append]
      unfold readFractionDigits
      split
      · simp_all
      · rfl
  | cons d ds =>
    have hrun : digitRun ((d :: ds).map Digit.toChar ++ rest) =
        ((d :: ds).map Digit.toChar, rest) :=
      digitRun_append
        (fun c hc => by
          obtain ⟨e, _, rfl⟩ := List.mem_map.1 hc
          exact Digit.isDigit_toChar e)
        (fun c hc => (hrest c hc).1)
    have hback : ((d :: ds).map Digit.toChar).map Digit.ofChar = d :: ds := by
      rw [List.map_map]
      conv => rhs; rw [← List.map_id (d :: ds)]
      exact List.map_congr_left fun e _ => Digit.ofChar_toChar e
    simp only [Numeral.fractionChars, List.cons_append, readFractionDigits]
    rw [hrun, hback]
    simp

/-- A sign is read and left behind; digits without one are left as they are. -/
theorem readSign_of_spells {negative : Bool} {sign digits : List Char}
    (h : SpellsSign negative sign) (hne : digits ≠ []) (hdigits : ∀ c ∈ digits, c.isDigit = true)
    (rest : List Char) : readSign (sign ++ (digits ++ rest)) = (negative, digits ++ rest) := by
  obtain ⟨d, ds, rfl⟩ := List.exists_cons_of_ne_nil hne
  have hd : d.isDigit = true := hdigits d List.mem_cons_self
  have hminus : d ≠ '-' := by
    rintro rfl
    exact absurd hd (by decide)
  have hplus : d ≠ '+' := by
    rintro rfl
    exact absurd hd (by decide)
  cases negative with
  | true =>
    obtain rfl : sign = ['-'] := h
    rfl
  | false =>
    obtain rfl | rfl : sign = [] ∨ sign = ['+'] := h
    · simp only [List.nil_append, List.cons_append]
      unfold readSign
      split <;> simp_all
    · rfl

theorem readExponent_of_spells {e : Option Int} {s rest : List Char} (h : SpellsExponent e s)
    (hrest : EndsNumber rest) : readExponent (s ++ rest) = some (e, rest) := by
  cases h with
  | none =>
    cases rest with
    | nil => rfl
    | cons c cs =>
      obtain ⟨_, _, he, hE⟩ := hrest c (by simp)
      simp only [List.nil_append]
      unfold readExponent
      split <;> simp_all
  | @some mark negative sign digits e hmark hsign hne hdigits hvalue =>
    have hrun : digitRun (digits ++ rest) = (digits, rest) :=
      digitRun_append hdigits fun c hc => (hrest c hc).1
    have hread : readExponentDigits (sign ++ (digits ++ rest)) = some (some e, rest) := by
      simp only [readExponentDigits, readSign_of_spells hsign hne hdigits, hrun, hne, if_false,
        hvalue]
    simp only [List.cons_append, List.append_assoc]
    rcases hmark with rfl | rfl <;> exact hread

theorem head_toDigits_ne_zero {n : Nat} (h : 0 < n) : (Nat.toDigits 10 n).head? ≠ some '0' := by
  induction n using Nat.strongRecOn with
  | ind n ih =>
    by_cases hlt : n < 10
    · have hd : ∀ d : Fin 10, d ≠ 0 → d.val.digitChar ≠ '0' := by decide
      rw [Nat.toDigits_of_lt_base hlt]
      simpa using hd ⟨n, hlt⟩ (by simp [Fin.ext_iff]; omega)
    · rw [Nat.toDigits_of_base_le (by decide) (by omega), List.head?_append]
      have hrec := ih (n / 10) (by omega) (by omega)
      cases hd : (Nat.toDigits 10 (n / 10)).head? with
      | none => exact absurd (List.head?_eq_none_iff.1 hd) Nat.toDigits_ne_nil
      | some c => simpa [hd] using hrec

theorem length_toDigits_of_head {n : Nat} (h : (Nat.toDigits 10 n).head? = some '0') :
    (Nat.toDigits 10 n).length = 1 := by
  rcases Nat.eq_zero_or_pos n with rfl | hn
  · rfl
  · exact absurd h (head_toDigits_ne_zero hn)

/-- What a number may be followed by can also follow its whole part and its fraction. -/
theorem head_exponent {e : Option Int} {s rest : List Char} (h : SpellsExponent e s)
    (hrest : EndsNumber rest) : ∀ c ∈ (s ++ rest).head?, c.isDigit = false ∧ c ≠ '.' := by
  intro c hc
  cases h with
  | none => exact ⟨(hrest c hc).1, (hrest c hc).2.1⟩
  | some e hmark =>
    simp only [List.cons_append, List.head?_cons] at hc
    cases hc
    rcases hmark with rfl | rfl <;> decide

theorem readUnsigned_of_spells (n : Numeral) {exponent rest : List Char}
    (hexponent : SpellsExponent n.exponent exponent) (hrest : EndsNumber rest) :
    readUnsigned n.negative
      (Nat.toDigits 10 n.whole ++ (Numeral.fractionChars n.fraction ++ exponent) ++ rest) =
      some (n, rest) := by
  have hexp := head_exponent hexponent hrest
  have hfrac : ∀ c ∈ (Numeral.fractionChars n.fraction ++ (exponent ++ rest)).head?,
      c.isDigit = false := by
    intro c hc
    cases hf : n.fraction with
    | nil =>
      rw [hf] at hc
      exact (hexp c (by simpa [Numeral.fractionChars] using hc)).1
    | cons d ds =>
      rw [hf] at hc
      simp only [Numeral.fractionChars, List.cons_append, List.head?_cons] at hc
      cases hc
      decide
  have hrun := digitRun_append (fun c hc => isDigit_of_mem_toDigits (n := n.whole) hc) hfrac
  have hne : Nat.toDigits 10 n.whole ≠ [] := Nat.toDigits_ne_nil
  have hzero : ¬ ((Nat.toDigits 10 n.whole).head? = some '0' ∧
      1 < (Nat.toDigits 10 n.whole).length) := by
    rintro ⟨hhead, hlen⟩
    rw [length_toDigits_of_head hhead] at hlen
    exact absurd hlen (by decide)
  simp only [readUnsigned, List.append_assoc, hrun, hne, hzero, or_self, if_false,
    readFractionDigits_chars n.fraction hexp, readExponent_of_spells hexponent hrest,
    Nat.ofDigitChars_ten_toDigits, Option.bind_eq_bind, Option.bind_some]
  rfl

/-- The first character of a whole part. -/
theorem toDigits_eq_cons (n : Nat) :
    ∃ c cs, Nat.toDigits 10 n = c :: cs ∧ c.isDigit = true := by
  obtain ⟨c, cs, hc⟩ := List.exists_cons_of_ne_nil (Nat.toDigits_ne_nil (b := 10) (n := n))
  exact ⟨c, cs, hc, isDigit_of_mem_toDigits (n := n) (by simp [hc])⟩

/-- A number begins with a minus sign or a digit. -/
theorem SpellsNumeral.eq_cons {n : Numeral} {s : List Char} (h : SpellsNumeral n s) :
    ∃ c cs, s = c :: cs ∧ (c = '-' ∨ c.isDigit = true) := by
  obtain ⟨c, cs, hc, hdigit⟩ := toDigits_eq_cons n.whole
  cases h
  by_cases hneg : n.negative = true
  · exact ⟨'-', _, by simp [hneg]; rfl, Or.inl rfl⟩
  · exact ⟨c, cs ++ _, by simp [hneg, hc]; rfl, Or.inr hdigit⟩

/-- **A number is read from any of its spellings.** -/
theorem readNumeral_of_spells {n : Numeral} {s rest : List Char} (h : SpellsNumeral n s)
    (hrest : EndsNumber rest) : readNumeral (s ++ rest) = some (n, rest) := by
  cases h with
  | parts hexponent =>
    have h := readUnsigned_of_spells n hexponent hrest
    by_cases hneg : n.negative = true
    · rw [hneg] at h
      simpa [hneg, readNumeral] using h
    · have hfalse : n.negative = false := by simpa using hneg
      obtain ⟨c, cs, hc, hdigit⟩ := toDigits_eq_cons n.whole
      have hminus : c ≠ '-' := by
        rintro rfl
        exact absurd hdigit (by decide)
      rw [hfalse, hc] at h
      rw [hc]
      simp only [hfalse, Bool.false_eq_true, if_false, List.nil_append, List.cons_append] at h ⊢
      unfold readNumeral
      split
      · simp_all
      · exact h

/-! ## Strings -/

theorem hexDigit?_digitChar : ∀ n : Fin 16,
    hexDigit? (Nat.digitChar n.val) = some n.val ∧
      hexDigit? (Nat.digitChar n.val).toUpper = some n.val := by
  decide

theorem hexDigit?_of_spells {n : Nat} {c : Char} (h : SpellsHex n c) : hexDigit? c = some n := by
  obtain ⟨hlt, rfl | rfl⟩ := h
  · exact (hexDigit?_digitChar ⟨n, hlt⟩).1
  · exact (hexDigit?_digitChar ⟨n, hlt⟩).2

/-- A number by four digits is read as a piece. -/
theorem readPieces_unit {n : Nat} {s : List Char} (h : SpellsUnit n s) (rest : List Char) :
    readPieces (s ++ rest) = (readPieces rest).map (Piece.unit n).before := by
  cases h with
  | digits hi hj hk hl =>
    simp [readPieces, hexFour?, hexDigit?_of_spells hi, hexDigit?_of_spells hj,
      hexDigit?_of_spells hk, hexDigit?_of_spells hl]

/-- A character that needs no escape is a piece by itself. -/
theorem readPieces_plain {c : Char} (rest : List Char) (hquote : c ≠ '"') (hslash : c ≠ '\\')
    (hcontrol : 0x20 ≤ c.toNat) :
    readPieces (c :: rest) = (readPieces rest).map (Piece.char c).before := by
  rw [readPieces.eq_def]
  split
  · contradiction
  · rename_i heq
    exact absurd (List.cons.inj heq).1 hquote
  · rename_i heq
    exact absurd (List.cons.inj heq).1 hslash
  · rename_i heq
    exact absurd (List.cons.inj heq).1 hslash
  · rename_i heq
    obtain ⟨rfl, rfl⟩ := List.cons.inj heq
    exact if_neg (Nat.not_lt.2 hcontrol)

theorem readPieces_letter {e c : Char} (h : (e, c) ∈ letterEscapes) (rest : List Char) :
    readPieces ('\\' :: e :: rest) = (readPieces rest).map (Piece.char c).before := by
  simp only [letterEscapes, List.mem_cons, Prod.mk.injEq, List.not_mem_nil, or_false] at h
  rcases h with ⟨rfl, rfl⟩ | ⟨rfl, rfl⟩ | ⟨rfl, rfl⟩ | ⟨rfl, rfl⟩ | ⟨rfl, rfl⟩ | ⟨rfl, rfl⟩ |
    ⟨rfl, rfl⟩ | ⟨rfl, rfl⟩ <;> simp [readPieces, escaped?]

/-- The code point of a character is no half of a pair. -/
theorem spell_unit (c : Char) (pieces : List Piece) :
    spell (.unit c.toNat :: pieces) = (spell pieces).map (c :: ·) := by
  have hvalid : c.toNat < 0xD800 ∨ 0xDFFF < c.toNat ∧ c.toNat < 0x110000 := c.valid
  have hlow : isLowHalf c.toNat = false := by simp [isLowHalf]; omega
  have hhigh : isHighHalf c.toNat = false := by simp [isHighHalf]; omega
  rw [spell.eq_def]
  simp [hlow, hhigh]

/-- The two halves of a character beyond the first 65536 spell it. -/
theorem spell_pair {c : Char} (h : 0x10000 ≤ c.toNat) (pieces : List Piece) :
    spell (.unit (0xD800 + (c.toNat - 0x10000) / 0x400) ::
        .unit (0xDC00 + (c.toNat - 0x10000) % 0x400) :: pieces) =
      (spell pieces).map (c :: ·) := by
  have hvalid : c.toNat < 0xD800 ∨ 0xDFFF < c.toNat ∧ c.toNat < 0x110000 := c.valid
  have hhigh : isHighHalf (0xD800 + (c.toNat - 0x10000) / 0x400) = true := by
    simp [isHighHalf]; omega
  have hlow : isLowHalf (0xDC00 + (c.toNat - 0x10000) % 0x400) = true := by
    simp [isLowHalf]; omega
  have hback : 0x10000 + (0xD800 + (c.toNat - 0x10000) / 0x400 - 0xD800) * 0x400 +
      (0xDC00 + (c.toNat - 0x10000) % 0x400 - 0xDC00) = c.toNat := by omega
  rw [spell, if_pos hhigh]
  simp only [hlow, if_true, hback, Char.ofNat_toNat]

/-- The pieces of a spelled character spell it. -/
theorem readPieces_of_spellsChar {c : Char} {s : List Char} (h : SpellsChar c s) :
    ∃ pieces : List Piece,
      (∀ rest, readPieces (s ++ rest) =
        (readPieces rest).map fun (more, rest) => (pieces ++ more, rest)) ∧
      ∀ more, spell (pieces ++ more) = (spell more).map (c :: ·) := by
  cases h with
  | plain hquote hslash hcontrol =>
    exact ⟨[.char c], (readPieces_plain · hquote hslash hcontrol), fun more => rfl⟩
  | letter hletter => exact ⟨[.char c], readPieces_letter hletter, fun more => rfl⟩
  | unit hunit => exact ⟨[.unit c.toNat], readPieces_unit hunit, spell_unit c⟩
  | pair hbeyond hhigh hlow =>
    refine ⟨[.unit _, .unit _], fun rest => ?_, spell_pair hbeyond⟩
    rw [List.append_assoc, readPieces_unit hhigh, readPieces_unit hlow, Option.map_map]
    rfl

theorem readPieces_of_spells {t s : List Char} (h : SpellsChars t s) :
    ∃ pieces, (∀ rest, readPieces (s ++ '"' :: rest) = some (pieces, rest)) ∧
      spell pieces = some t := by
  induction h with
  | nil => exact ⟨[], fun rest => rfl, rfl⟩
  | cons hc _ ih =>
    obtain ⟨pieces, hread, hspell⟩ := readPieces_of_spellsChar hc
    obtain ⟨more, hmore, htext⟩ := ih
    refine ⟨pieces ++ more, fun rest => ?_, ?_⟩
    · rw [List.append_assoc, hread, hmore, Option.map_some]
    · rw [hspell, htext, Option.map_some]

/-- **A string is read from any of its spellings.** -/
theorem readString_of_spells {t : String} {s : List Char} (h : SpellsString t s)
    (rest : List Char) :
    ∃ body, s ++ rest = '"' :: body ∧ readString body = some (some t, rest) := by
  cases h with
  | @quoted s hchars =>
    obtain ⟨pieces, hread, hspell⟩ := readPieces_of_spells hchars
    refine ⟨s ++ '"' :: rest, by simp, ?_⟩
    simp [readString, hread, hspell]

/-! ## Blanks -/

theorem skipSpaces_cons {c : Char} (cs : List Char) (h : isSpace c = false) :
    skipSpaces (c :: cs) = c :: cs := by
  simp [skipSpaces, h]

theorem isSpace_of_mem {s : List Char} (h : Blanks s) : ∀ c ∈ s, isSpace c = true := by
  intro c hc
  rcases h c hc with rfl | rfl | rfl | rfl <;> rfl

theorem skipSpaces_append {s : List Char} (h : Blanks s) (rest : List Char) :
    skipSpaces (s ++ rest) = skipSpaces rest :=
  List.dropWhile_append_of_pos (isSpace_of_mem h)

/-- Blanks end a number as well as what comes after them. -/
theorem endsNumber_append {s rest : List Char} (h : Blanks s) (hrest : EndsNumber rest) :
    EndsNumber (s ++ rest) := by
  cases s with
  | nil => exact hrest
  | cons c cs =>
    refine endsNumber_cons _ ?_
    rcases h c List.mem_cons_self with rfl | rfl | rfl | rfl <;> decide

/-- A tree, an item and a member may have blanks in front. -/
theorem readTree_skip {s : List Char} (h : Blanks s) (fuel : Nat) (rest : List Char) :
    readTree fuel (s ++ rest) = readTree fuel rest := by
  cases fuel with
  | zero => rfl
  | succ fuel => simp only [readTree, skipSpaces_append h]

theorem readItems_skip {s : List Char} (h : Blanks s) (fuel : Nat) (rest : List Char) :
    readItems fuel (s ++ rest) = readItems fuel rest := by
  cases fuel with
  | zero => rfl
  | succ fuel => simp only [readItems, readTree_skip h]

theorem readMembers_skip {s : List Char} (h : Blanks s) (fuel : Nat) (rest : List Char) :
    readMembers fuel (s ++ rest) = readMembers fuel rest := by
  cases fuel with
  | zero => rfl
  | succ fuel => simp only [readMembers, skipSpaces_append h]

/-! ## Documents -/

mutual

/-- The tree that a document stands for. -/
def Document.tree : Document → Tree
  | .null => .null
  | .bool b => .bool b
  | .number n => .number n
  | .string s => .string (some s)
  | .array items => .array (itemTrees items)
  | .object members => .object (memberTrees members)

/-- The trees of the items of an array. -/
def itemTrees : List Document → Items
  | [] => .closed
  | d :: rest => .cons d.tree (itemTrees rest)

/-- The trees of the members of an object. -/
def memberTrees : List (String × Document) → Members
  | [] => .closed
  | (k, d) :: rest => .cons (some k) d.tree (memberTrees rest)

end

/-- A document begins with no blank and no closing bracket. -/
theorem Spells.eq_cons {d : Document} {s : List Char} (h : Spells d s) :
    ∃ c cs, s = c :: cs ∧ isSpace c = false ∧ c ≠ ']' := by
  cases h with
  | null | yes | no | array | object => exact ⟨_, _, rfl, by decide, by decide⟩
  | number hnumber =>
    obtain ⟨c, cs, hc, h⟩ := hnumber.eq_cons
    refine ⟨c, cs, hc, ?_, ?_⟩
    · rcases h with rfl | h
      · decide
      · simp only [isSpace, Bool.or_eq_false_iff, beq_eq_false_iff_ne]
        refine ⟨⟨⟨?_, ?_⟩, ?_⟩, ?_⟩ <;> (rintro rfl; exact absurd h (by decide))
    · rcases h with rfl | h
      · decide
      · rintro rfl
        exact absurd h (by decide)
  | string hstring =>
    cases hstring with
    | quoted => exact ⟨_, _, rfl, by decide, by decide⟩

/-- Items begin behind blanks, with no closing bracket. -/
theorem SpellsItems.eq_append {items : List Document} {s : List Char} (h : SpellsItems items s)
    (hne : items ≠ []) :
    ∃ before c cs, Blanks before ∧ s = before ++ c :: cs ∧ isSpace c = false ∧ c ≠ ']' := by
  have hpadded : ∀ {d : Document} {s : List Char} (more : List Char), SpellsPadded d s →
      ∃ before c cs, Blanks before ∧ s ++ more = before ++ c :: cs ∧ isSpace c = false ∧
        c ≠ ']' := by
    intro d s more hs
    cases hs with
    | @around _ before _ after hbefore hs _ =>
      obtain ⟨c, cs, rfl, hc⟩ := hs.eq_cons
      exact ⟨before, c, cs ++ (after ++ more), hbefore, by simp, hc⟩
  cases h with
  | none => exact absurd rfl hne
  | one h => simpa using hpadded [] h
  | more h => exact hpadded _ h

/-- Members begin behind blanks, with the quotation mark of a key. -/
theorem SpellsMembers.eq_append {members : List (String × Document)} {s : List Char}
    (h : SpellsMembers members s) (hne : members ≠ []) :
    ∃ before cs, Blanks before ∧ s = before ++ '"' :: cs := by
  cases h with
  | none => exact absurd rfl hne
  | one hbefore hkey | more hbefore hkey =>
    cases hkey
    exact ⟨_, _, hbefore, by simp; rfl⟩

/-- What stands before a text that begins with a numeral is read as that numeral. -/
theorem readTree_of_readNumeral {c : Char} {cs rest : List Char} {n : Numeral} (fuel : Nat)
    (hc : c = '-' ∨ c.isDigit = true) (h : readNumeral (c :: cs) = some (n, rest)) :
    readTree (fuel + 1) (c :: cs) = (.number n, some rest) := by
  have hne : ∀ d : Char, d ≠ '-' → d.isDigit = false → c ≠ d := by
    rintro d hminus hdigit rfl
    rcases hc with hc | hc
    · exact hminus hc
    · rw [hdigit] at hc
      exact absurd hc (by decide)
  have hspace : isSpace c = false := by
    have h1 := hne ' ' (by decide) (by decide)
    have h2 := hne '\n' (by decide) (by decide)
    have h3 := hne '\t' (by decide) (by decide)
    have h4 := hne '\r' (by decide) (by decide)
    simp [isSpace, h1, h2, h3, h4]
  rw [readTree, skipSpaces_cons cs hspace]
  split
  · rename_i heq
    exact absurd (List.cons.inj heq).1 (hne 'n' (by decide) (by decide))
  · rename_i heq
    exact absurd (List.cons.inj heq).1 (hne 't' (by decide) (by decide))
  · rename_i heq
    exact absurd (List.cons.inj heq).1 (hne 'f' (by decide) (by decide))
  · rename_i heq
    exact absurd (List.cons.inj heq).1 (hne '"' (by decide) (by decide))
  · rename_i heq
    exact absurd (List.cons.inj heq).1 (hne '[' (by decide) (by decide))
  · rename_i heq
    exact absurd (List.cons.inj heq).1 (hne '\x7b' (by decide) (by decide))
  · rw [h]

/-- The marks after a padded document: they end a number and are no blanks. -/
def EndsPadded (rest : List Char) : Prop := EndsNumber rest ∧ skipSpaces rest = rest

theorem endsPadded_comma (rest : List Char) : EndsPadded (',' :: rest) :=
  ⟨endsNumber_cons rest (by decide), rfl⟩

theorem endsPadded_bracket (rest : List Char) : EndsPadded (']' :: rest) :=
  ⟨endsNumber_cons rest (by decide), rfl⟩

theorem endsPadded_brace (rest : List Char) : EndsPadded ('\x7d' :: rest) :=
  ⟨endsNumber_cons rest (by decide), rfl⟩

/-- Every spelling of a document is read as its tree. -/
def ReadBySpelling (d : Document) : Prop :=
  ∀ (fuel : Nat) (s rest : List Char), Spells d s → 2 * s.length ≤ fuel → EndsNumber rest →
    readTree fuel (s ++ rest) = (d.tree, some rest)

/-- With blanks around it a document is read as well, and the blanks after it are left. -/
theorem ReadBySpelling.padded {d : Document} (h : ReadBySpelling d) (fuel : Nat)
    {s rest : List Char} (hs : SpellsPadded d s) (hfuel : 2 * s.length ≤ fuel)
    (hrest : EndsPadded rest) :
    ∃ after, readTree fuel (s ++ rest) = (d.tree, some after) ∧ skipSpaces after = rest := by
  cases hs with
  | @around _ before s after hbefore hs hafter =>
    refine ⟨after ++ rest, ?_, by rw [skipSpaces_append hafter, hrest.2]⟩
    simp only [List.length_append] at hfuel
    rw [List.append_assoc, readTree_skip hbefore, List.append_assoc]
    exact h fuel s _ hs (by omega) (endsNumber_append hafter hrest.1)

mutual

/-- **A document is read from any of its spellings**, whatever follows that does not continue a
number. -/
theorem readTree_of_spells : ∀ d : Document, ReadBySpelling d
  | .null, fuel, s, rest, h, hfuel, _ => by
    cases h
    obtain ⟨fuel, rfl⟩ : ∃ f, fuel = f + 1 := ⟨fuel - 1, by simp at hfuel; omega⟩
    simp [readTree, skipSpaces, isSpace, Document.tree]
  | .bool b, fuel, s, rest, h, hfuel, _ => by
    obtain ⟨fuel, rfl⟩ : ∃ f, fuel = f + 1 := ⟨fuel - 1, by cases h <;> simp at hfuel <;> omega⟩
    cases h <;> simp [readTree, skipSpaces, isSpace, Document.tree]
  | .number n, fuel, s, rest, h, hfuel, hrest => by
    cases h with
    | number h =>
      obtain ⟨c, cs, rfl, hc⟩ := h.eq_cons
      obtain ⟨fuel, rfl⟩ : ∃ f, fuel = f + 1 := ⟨fuel - 1, by simp at hfuel; omega⟩
      exact readTree_of_readNumeral fuel hc (readNumeral_of_spells h hrest)
  | .string t, fuel, s, rest, h, hfuel, _ => by
    cases h with
    | string h =>
      obtain ⟨body, hbody, hread⟩ := readString_of_spells h rest
      obtain ⟨fuel, rfl⟩ : ∃ f, fuel = f + 1 := ⟨fuel - 1, by cases h; simp at hfuel; omega⟩
      simp [hbody, readTree, skipSpaces, isSpace, hread, Document.tree]
  | .array items, fuel, s, rest, h, hfuel, _ => by
    cases h with
    | @array _ s h =>
      obtain ⟨fuel, rfl⟩ : ∃ f, fuel = f + 1 := ⟨fuel - 1, by simp at hfuel; omega⟩
      simp only [List.cons_append, List.append_assoc, List.nil_append]
      rw [readTree, skipSpaces_cons _ (by decide)]
      by_cases hne : items = []
      · subst hne
        cases h with
        | none hblanks =>
          have hclose : skipSpaces (']' :: rest) = ']' :: rest := skipSpaces_cons _ (by decide)
          simp only [skipSpaces_append hblanks, hclose]
          rfl
      · have hread := readItems_of_spells items fuel s rest hne h (by simp at hfuel; omega)
        obtain ⟨before, c, cs, hbefore, rfl, hspace, hclose⟩ := h.eq_append hne
        rw [List.append_assoc, readItems_skip hbefore] at hread
        simp only [List.append_assoc, skipSpaces_append hbefore, List.cons_append,
          skipSpaces_cons _ hspace] at hread ⊢
        split
        · rename_i heq
          exact absurd (List.cons.inj heq).1 hclose
        · rw [hread]
          rfl
  | .object members, fuel, s, rest, h, hfuel, _ => by
    cases h with
    | @object _ s h =>
      obtain ⟨fuel, rfl⟩ : ∃ f, fuel = f + 1 := ⟨fuel - 1, by simp at hfuel; omega⟩
      simp only [List.cons_append, List.append_assoc, List.nil_append]
      rw [readTree, skipSpaces_cons _ (by decide)]
      by_cases hne : members = []
      · subst hne
        cases h with
        | none hblanks =>
          have hclose : skipSpaces ('\x7d' :: rest) = '\x7d' :: rest :=
            skipSpaces_cons _ (by decide)
          simp only [skipSpaces_append hblanks, hclose]
          rfl
      · have hread := readMembers_of_spells members fuel s rest hne h (by simp at hfuel; omega)
        obtain ⟨before, cs, hbefore, rfl⟩ := h.eq_append hne
        rw [List.append_assoc, readMembers_skip hbefore] at hread
        simp only [List.append_assoc, skipSpaces_append hbefore, List.cons_append] at hread ⊢
        simp [skipSpaces_cons _ (show isSpace '"' = false by decide), hread, Document.tree]

theorem readItems_of_spells : ∀ (items : List Document) (fuel : Nat) (s rest : List Char),
    items ≠ [] → SpellsItems items s → 2 * s.length + 1 ≤ fuel →
      readItems fuel (s ++ ']' :: rest) = (itemTrees items, some rest)
  | [], _, _, _, h, _, _ => absurd rfl h
  | [d], fuel, s, rest, _, h, hfuel => by
    obtain ⟨fuel, rfl⟩ : ∃ f, fuel = f + 1 := ⟨fuel - 1, by omega⟩
    cases h with
    | one h =>
      obtain ⟨after, hread, hskip⟩ :=
        (readTree_of_spells d).padded fuel h (by omega) (endsPadded_bracket rest)
      simp [readItems, hread, hskip, itemTrees]
  | d :: e :: items, fuel, s, rest, _, h, hfuel => by
    obtain ⟨fuel, rfl⟩ : ∃ f, fuel = f + 1 := ⟨fuel - 1, by omega⟩
    cases h with
    | @more _ _ _ s t h ht =>
      simp only [List.length_append, List.length_cons] at hfuel
      obtain ⟨after, hread, hskip⟩ := (readTree_of_spells d).padded fuel h
        (by omega) (endsPadded_comma (t ++ ']' :: rest))
      have htail := readItems_of_spells (e :: items) fuel t rest (by simp) ht (by omega)
      simp [readItems, hread, hskip, htail, itemTrees]

theorem readMembers_of_spells : ∀ (members : List (String × Document)) (fuel : Nat)
    (s rest : List Char), members ≠ [] → SpellsMembers members s → 2 * s.length + 1 ≤ fuel →
      readMembers fuel (s ++ '\x7d' :: rest) = (memberTrees members, some rest)
  | [], _, _, _, h, _, _ => absurd rfl h
  | [(k, d)], fuel, s, rest, _, h, hfuel => by
    obtain ⟨fuel, rfl⟩ : ∃ f, fuel = f + 1 := ⟨fuel - 1, by omega⟩
    cases h with
    | @one _ _ before key after s hbefore hkey hafter h =>
      simp only [List.length_append, List.length_cons] at hfuel
      obtain ⟨left, hread, hskip⟩ := (readTree_of_spells d).padded fuel h
        (by omega) (endsPadded_brace rest)
      obtain ⟨body, hbody, hstring⟩ :=
        readString_of_spells hkey (after ++ ':' :: (s ++ '\x7d' :: rest))
      simp only [List.append_assoc, List.cons_append, readMembers_skip hbefore, hbody]
      simp [readMembers, skipSpaces_cons, isSpace, hstring, skipSpaces_append hafter, hread, hskip,
        memberTrees]
  | (k, d) :: e :: members, fuel, s, rest, _, h, hfuel => by
    obtain ⟨fuel, rfl⟩ : ∃ f, fuel = f + 1 := ⟨fuel - 1, by omega⟩
    cases h with
    | @more _ _ _ _ before key after s t hbefore hkey hafter h ht =>
      simp only [List.length_append, List.length_cons] at hfuel
      obtain ⟨left, hread, hskip⟩ := (readTree_of_spells d).padded fuel h
        (by omega) (endsPadded_comma (t ++ '\x7d' :: rest))
      have htail := readMembers_of_spells (e :: members) fuel t rest (by simp) ht (by omega)
      obtain ⟨body, hbody, hstring⟩ :=
        readString_of_spells hkey (after ++ ':' :: (s ++ ',' :: (t ++ '\x7d' :: rest)))
      simp only [List.append_assoc, List.cons_append, readMembers_skip hbefore, hbody]
      simp [readMembers, skipSpaces_cons, isSpace, hstring, skipSpaces_append hafter, hread, hskip,
        htail, memberTrees]

end

/-! ## Whole texts -/

/-- **A text that spells a document is read as its tree**, and it ends there. -/
theorem ofText_of_spells {d : Document} {text : String} (h : SpellsPadded d text.toList) :
    Reading.ofText text = ⟨d.tree, true⟩ := by
  obtain ⟨after, hread, hskip⟩ := (readTree_of_spells d).padded (2 * text.toList.length + 2) h
    (by omega) (show EndsPadded [] from ⟨nofun, rfl⟩)
  rw [List.append_nil] at hread
  simp [Reading.ofText, hread, hskip]

/-- A decoder makes of a text what it makes of the document that the text spells. -/
theorem decodeText_of_spells {α : Type} (decoder : Decoder α) {d : Document} {text : String}
    (h : SpellsPadded d text.toList) :
    decodeText decoder text = decoder nestingLimit d.tree := by
  rw [decodeText, ofText_of_spells h]
  cases decoder nestingLimit d.tree <;> rfl

theorem Document.spells_text (d : Document) : SpellsPadded d d.text.toList := by
  rw [Document.text, String.toList_ofList]
  exact d.spells_chars.padded

/-- **A decoder makes of a written text what it makes of the document.** -/
theorem decodeText_text {α : Type} (decoder : Decoder α) (d : Document) :
    decodeText decoder d.text = decoder nestingLimit d.tree :=
  decodeText_of_spells decoder d.spells_text

end Json

end PropertyGraph
