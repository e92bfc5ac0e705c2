import PropertyGraph.Json.Document

/-!
# The grammar of JSON

Which texts spell a document.  A document has many spellings: blanks may stand between its parts, a
character of a string may be escaped in several ways, and the exponent of a number may have another
sign or more zeros.  The grammar says nothing of how a text is read.

* `Spells` — the texts of a document, without blanks around them;
* `SpellsPadded` — the same with blanks around them;
* `Document.spells_chars` — what the library writes is one of the spellings.
-/

namespace PropertyGraph

namespace Json

/-- Any number of the four blanks. -/
def Blanks (s : List Char) : Prop := ∀ c ∈ s, c = ' ' ∨ c = '\t' ∨ c = '\n' ∨ c = '\r'

theorem blanks_nil : Blanks [] := nofun

/-! ## Numbers -/

/-- The sign of an exponent; a plus may be left out. -/
def SpellsSign (negative : Bool) (s : List Char) : Prop :=
  if negative then s = ['-'] else s = [] ∨ s = ['+']

/-- An exponent: its mark, a sign and at least one digit. -/
inductive SpellsExponent : Option Int → List Char → Prop
  | none : SpellsExponent none []
  | some {mark : Char} {negative : Bool} {sign digits : List Char} (e : Int) :
      mark = 'e' ∨ mark = 'E' → SpellsSign negative sign → digits ≠ [] →
      (∀ c ∈ digits, c.isDigit = true) →
      e = (if negative then -(Nat.ofDigitChars 10 digits 0 : Int)
        else Nat.ofDigitChars 10 digits 0) →
      SpellsExponent (some e) (mark :: (sign ++ digits))

/-- A number: a minus if it has one, the whole part without superfluous zeros, the fraction behind
a point if it has digits, and the exponent. -/
inductive SpellsNumeral (n : Numeral) : List Char → Prop
  | parts {exponent : List Char} : SpellsExponent n.exponent exponent →
      SpellsNumeral n ((if n.negative then ['-'] else []) ++
        (Nat.toDigits 10 n.whole ++ (Numeral.fractionChars n.fraction ++ exponent)))

/-! ## Strings -/

/-- The letters of escapes and the characters they stand for. -/
def letterEscapes : List (Char × Char) :=
  [('"', '"'), ('\\', '\\'), ('/', '/'), ('b', '\x08'), ('f', '\x0c'), ('n', '\n'), ('r', '\r'),
    ('t', '\t')]

/-- A hexadecimal digit, in letters of either case. -/
def SpellsHex (n : Nat) (c : Char) : Prop :=
  n < 16 ∧ (c = Nat.digitChar n ∨ c = (Nat.digitChar n).toUpper)

/-- A number below 65536 by four hexadecimal digits behind a backslash and a `u`. -/
inductive SpellsUnit : Nat → List Char → Prop
  | digits {i j k l : Nat} {a b c d : Char} :
      SpellsHex i a → SpellsHex j b → SpellsHex k c → SpellsHex l d →
      SpellsUnit (((i * 16 + j) * 16 + k) * 16 + l) ['\\', 'u', a, b, c, d]

/-- A character of a string: as it is, unless it is a control, the quotation mark or the backslash;
by an escape with a letter; by its number; or by the numbers of its two halves. -/
inductive SpellsChar : Char → List Char → Prop
  | plain {c : Char} : c ≠ '"' → c ≠ '\\' → 0x20 ≤ c.toNat → SpellsChar c [c]
  | letter {e c : Char} : (e, c) ∈ letterEscapes → SpellsChar c ['\\', e]
  | unit {c : Char} {s : List Char} : SpellsUnit c.toNat s → SpellsChar c s
  | pair {c : Char} {s t : List Char} : 0x10000 ≤ c.toNat →
      SpellsUnit (0xD800 + (c.toNat - 0x10000) / 0x400) s →
      SpellsUnit (0xDC00 + (c.toNat - 0x10000) % 0x400) t → SpellsChar c (s ++ t)

/-- The characters of a string, one after the other. -/
inductive SpellsChars : List Char → List Char → Prop
  | nil : SpellsChars [] []
  | cons {c : Char} {cs s t : List Char} :
      SpellsChar c s → SpellsChars cs t → SpellsChars (c :: cs) (s ++ t)

/-- A string between quotation marks. -/
inductive SpellsString (t : String) : List Char → Prop
  | quoted {s : List Char} : SpellsChars t.toList s → SpellsString t ('"' :: (s ++ ['"']))

/-! ## Documents -/

mutual

/-- A document. -/
inductive Spells : Document → List Char → Prop
  | null : Spells .null ['n', 'u', 'l', 'l']
  | yes : Spells (.bool true) ['t', 'r', 'u', 'e']
  | no : Spells (.bool false) ['f', 'a', 'l', 's', 'e']
  | number {n : Numeral} {s : List Char} : SpellsNumeral n s → Spells (.number n) s
  | string {t : String} {s : List Char} : SpellsString t s → Spells (.string t) s
  | array {items : List Document} {s : List Char} :
      SpellsItems items s → Spells (.array items) ('[' :: (s ++ [']']))
  | object {members : List (String × Document)} {s : List Char} :
      SpellsMembers members s → Spells (.object members) ('\x7b' :: (s ++ ['\x7d']))

/-- A document with blanks around it. -/
inductive SpellsPadded : Document → List Char → Prop
  | around {d : Document} {before s after : List Char} :
      Blanks before → Spells d s → Blanks after → SpellsPadded d (before ++ (s ++ after))

/-- The items of an array with commas between them. -/
inductive SpellsItems : List Document → List Char → Prop
  | none {s : List Char} : Blanks s → SpellsItems [] s
  | one {d : Document} {s : List Char} : SpellsPadded d s → SpellsItems [d] s
  | more {d e : Document} {rest : List Document} {s t : List Char} :
      SpellsPadded d s → SpellsItems (e :: rest) t → SpellsItems (d :: e :: rest) (s ++ ',' :: t)

/-- The members of an object with commas between them, each a key, a colon and a document. -/
inductive SpellsMembers : List (String × Document) → List Char → Prop
  | none {s : List Char} : Blanks s → SpellsMembers [] s
  | one {k : String} {d : Document} {before key after s : List Char} :
      Blanks before → SpellsString k key → Blanks after → SpellsPadded d s →
      SpellsMembers [(k, d)] (before ++ (key ++ (after ++ ':' :: s)))
  | more {k : String} {d : Document} {e : String × Document} {rest : List (String × Document)}
      {before key after s t : List Char} :
      Blanks before → SpellsString k key → Blanks after → SpellsPadded d s →
      SpellsMembers (e :: rest) t →
      SpellsMembers ((k, d) :: e :: rest) (before ++ (key ++ (after ++ ':' :: (s ++ ',' :: t))))

end

/-! ## What the library writes -/

theorem spellsExponent_chars (e : Option Int) :
    SpellsExponent e (Numeral.exponentChars true e) := by
  cases e with
  | none => exact .none
  | some e =>
    have hsign : SpellsSign (decide (e < 0)) (if e < 0 then ['-'] else ['+']) := by
      by_cases h : e < 0 <;> simp [SpellsSign, h]
    refine .some e (Or.inl rfl) hsign Nat.toDigits_ne_nil
      (fun c hc => isDigit_of_mem_toDigits hc) ?_
    simp only [Nat.ofDigitChars_ten_toDigits, decide_eq_true_eq]
    split <;> omega

theorem spellsNumeral_chars (n : Numeral) : SpellsNumeral n (n.chars true) :=
  .parts (spellsExponent_chars n.exponent)

/-- The two digits of a small number are hexadecimal digits. -/
theorem spellsUnit_hexPair {n : Nat} (h : n < 0x20) :
    SpellsUnit n ('\\' :: 'u' :: '0' :: '0' :: hexPair n) := by
  have hzero : SpellsHex 0 '0' := ⟨by decide, Or.inl rfl⟩
  have hunit := SpellsUnit.digits hzero hzero (i := 0) (j := 0) (k := n / 16) (l := n % 16)
    ⟨by omega, Or.inl rfl⟩ ⟨by omega, Or.inl rfl⟩
  have hvalue : ((0 * 16 + 0) * 16 + n / 16) * 16 + n % 16 = n := by omega
  rwa [hvalue] at hunit

theorem spellsChar_escapeChar (c : Char) : SpellsChar c (escapeChar c) := by
  unfold escapeChar
  -- The seven escapes by a letter, then the other controls, then all other characters.
  iterate 7
    split
    · subst c
      exact .letter (by decide)
  split
  · rename_i hcontrol
    exact .unit (spellsUnit_hexPair hcontrol)
  · rename_i hquote hslash _ _ _ _ _ hcontrol
    exact .plain hquote hslash (Nat.not_lt.1 hcontrol)

theorem spellsString_stringChars (s : String) : SpellsString s (stringChars s) := by
  refine .quoted ?_
  generalize s.toList = cs
  induction cs with
  | nil => exact .nil
  | cons c cs ih => exact .cons (spellsChar_escapeChar c) ih

theorem Spells.padded {d : Document} {s : List Char} (h : Spells d s) : SpellsPadded d s := by
  simpa using SpellsPadded.around blanks_nil h blanks_nil

mutual

/-- **The text of a document spells it.** -/
theorem Document.spells_chars : ∀ d : Document, Spells d d.chars
  | .null => .null
  | .bool true => .yes
  | .bool false => .no
  | .number n => .number (spellsNumeral_chars n)
  | .string s => .string (spellsString_stringChars s)
  | .array items => .array (spellsItems_chars items)
  | .object members => .object (spellsMembers_chars members)

theorem spellsItems_chars : ∀ items : List Document,
    SpellsItems items (Document.itemChars items)
  | [] => .none blanks_nil
  | [d] => .one d.spells_chars.padded
  | d :: e :: rest => by
    rw [Document.itemChars_cons_cons]
    exact .more d.spells_chars.padded (spellsItems_chars (e :: rest))

theorem spellsMembers_chars : ∀ members : List (String × Document),
    SpellsMembers members (Document.memberChars members)
  | [] => .none blanks_nil
  | [(k, d)] => by
    have h := SpellsMembers.one blanks_nil (spellsString_stringChars k) blanks_nil
      d.spells_chars.padded
    simpa [Document.memberChars] using h
  | (k, d) :: e :: rest => by
    have h := SpellsMembers.more blanks_nil (spellsString_stringChars k) blanks_nil
      d.spells_chars.padded (spellsMembers_chars (e :: rest))
    simpa [Document.memberChars_cons_cons] using h

end

end Json

end PropertyGraph
