import PropertyGraph.Json.Tree

/-!
# Reading a text as a tree

The grammar of JSON, as a function from a text to the tree of what it says and the rest of the
text; there is no rest once the text has departed from the grammar.

Strings are read in two steps.  First the grammar: raw characters, escapes by a letter and escapes
by four hexadecimal digits.  Then the spelling: two escapes by digits may together name one
character beyond the first 65536, and half of such a pair alone spells nothing.

* `Reading.ofText` — the tree of a whole text, and whether only blanks follow it.
-/

namespace PropertyGraph

namespace Json

/-- The four blanks of JSON. -/
def isSpace (c : Char) : Bool := c == ' ' || c == '\n' || c == '\t' || c == '\r'

/-- The text without the blanks at its start. -/
def skipSpaces (s : List Char) : List Char := s.dropWhile isSpace

/-! ## Strings -/

/-- A part of a string: a character, or a number given by four hexadecimal digits. -/
inductive Piece where
  | char (c : Char)
  | unit (n : Nat)
  deriving DecidableEq

/-- The number of a hexadecimal digit, in letters of either case. -/
def hexDigit? (c : Char) : Option Nat :=
  if c.isDigit then some (c.toNat - '0'.toNat)
  else if 'a' ≤ c ∧ c ≤ 'f' then some (c.toNat - 'a'.toNat + 10)
  else if 'A' ≤ c ∧ c ≤ 'F' then some (c.toNat - 'A'.toNat + 10)
  else none

/-- The number of four hexadecimal digits. -/
def hexFour? (a b c d : Char) : Option Nat := do
  let a ← hexDigit? a
  let b ← hexDigit? b
  let c ← hexDigit? c
  let d ← hexDigit? d
  return ((a * 16 + b) * 16 + c) * 16 + d

/-- The character of an escape by a letter. -/
def escaped? (c : Char) : Option Char :=
  if c = '"' then some '"'
  else if c = '\\' then some '\\'
  else if c = '/' then some '/'
  else if c = 'b' then some '\x08'
  else if c = 'f' then some '\x0c'
  else if c = 'n' then some '\n'
  else if c = 'r' then some '\r'
  else if c = 't' then some '\t'
  else none

/-- A piece put before the pieces that were read. -/
def Piece.before (p : Piece) : List Piece × List Char → List Piece × List Char
  | (pieces, rest) => (p :: pieces, rest)

/-- The pieces of a string up to its closing quotation mark, and the rest of the text. -/
def readPieces : List Char → Option (List Piece × List Char)
  | [] => none
  | '"' :: rest => some ([], rest)
  | '\\' :: 'u' :: a :: b :: c :: d :: rest =>
    (hexFour? a b c d).bind fun n => (readPieces rest).map (Piece.unit n).before
  | '\\' :: e :: rest => (escaped? e).bind fun c => (readPieces rest).map (Piece.char c).before
  | c :: rest => if c.toNat < 0x20 then none else (readPieces rest).map (Piece.char c).before

/-- A number that is the first half of a pair. -/
def isHighHalf (n : Nat) : Bool := 0xD800 ≤ n ∧ n ≤ 0xDBFF

/-- A number that is the second half of a pair. -/
def isLowHalf (n : Nat) : Bool := 0xDC00 ≤ n ∧ n ≤ 0xDFFF

/-- The text that pieces spell, if they spell one. -/
def spell : List Piece → Option (List Char)
  | [] => some []
  | .char c :: rest => (spell rest).map (c :: ·)
  | .unit n :: rest =>
    if isHighHalf n then
      match rest with
      | .unit m :: rest =>
        if isLowHalf m then
          (spell rest).map (Char.ofNat (0x10000 + (n - 0xD800) * 0x400 + (m - 0xDC00)) :: ·)
        else none
      | _ => none
    else if isLowHalf n then none
    else (spell rest).map (Char.ofNat n :: ·)

/-- A string after its opening quotation mark: its text, if it spells one, and the rest. -/
def readString (s : List Char) : Option (Option String × List Char) :=
  (readPieces s).map fun (pieces, rest) => ((spell pieces).map String.ofList, rest)

/-! ## Numbers -/

/-- The digits after a point: none without a point, at least one after it. -/
def readFractionDigits (s : List Char) : Option (List Digit × List Char) :=
  match s with
  | '.' :: s =>
    let (ds, rest) := digitRun s
    if ds = [] then none else some (ds.map Digit.ofChar, rest)
  | _ => some ([], s)

/-- The sign of an exponent: whether it is negative, and the rest. -/
def readSign : List Char → Bool × List Char
  | '-' :: s => (true, s)
  | '+' :: s => (false, s)
  | s => (false, s)

/-- The digits of an exponent after its mark: at least one. -/
def readExponentDigits (s : List Char) : Option (Option Int × List Char) :=
  let (negative, s) := readSign s
  let (ds, rest) := digitRun s
  let n : Int := Nat.ofDigitChars 10 ds 0
  if ds = [] then none else some (some (if negative then -n else n), rest)

/-- An exponent: none without its mark. -/
def readExponent (s : List Char) : Option (Option Int × List Char) :=
  match s with
  | 'e' :: s => readExponentDigits s
  | 'E' :: s => readExponentDigits s
  | _ => some (none, s)

/-- A number without its sign.  A zero in front has no digit after it. -/
def readUnsigned (negative : Bool) (s : List Char) : Option (Numeral × List Char) := do
  let (ds, s) := digitRun s
  if ds = [] ∨ (ds.head? = some '0' ∧ 1 < ds.length) then none
  else
    let (fraction, s) ← readFractionDigits s
    let (exponent, s) ← readExponent s
    return (⟨negative, Nat.ofDigitChars 10 ds 0, fraction, exponent⟩, s)

/-- A number. -/
def readNumeral : List Char → Option (Numeral × List Char)
  | '-' :: s => readUnsigned true s
  | s => readUnsigned false s

/-! ## Trees -/

mutual

/-- The tree at the start of a text, and the rest of the text; `fuel` bounds the steps. -/
def readTree : Nat → List Char → Tree × Option (List Char)
  | 0, _ => (.broken, none)
  | fuel + 1, s =>
    match skipSpaces s with
    | 'n' :: 'u' :: 'l' :: 'l' :: rest => (.null, some rest)
    | 't' :: 'r' :: 'u' :: 'e' :: rest => (.bool true, some rest)
    | 'f' :: 'a' :: 'l' :: 's' :: 'e' :: rest => (.bool false, some rest)
    | '"' :: rest =>
      match readString rest with
      | some (s, rest) => (.string s, some rest)
      | none => (.broken, none)
    | '[' :: rest =>
      match skipSpaces rest with
      | ']' :: rest => (.array .closed, some rest)
      | rest =>
        let (items, rest) := readItems fuel rest
        (.array items, rest)
    | '\x7b' :: rest =>
      match skipSpaces rest with
      | '\x7d' :: rest => (.object .closed, some rest)
      | rest =>
        let (members, rest) := readMembers fuel rest
        (.object members, rest)
    | rest =>
      match readNumeral rest with
      | some (n, rest) => (.number n, some rest)
      | none => (.broken, none)

/-- At least one item and what follows it, up to the closing bracket. -/
def readItems : Nat → List Char → Items × Option (List Char)
  | 0, _ => (.broken, none)
  | fuel + 1, s =>
    match readTree fuel s with
    | (head, none) => (.cons head .broken, none)
    | (head, some rest) =>
      match skipSpaces rest with
      | ',' :: rest =>
        let (tail, rest) := readItems fuel rest
        (.cons head tail, rest)
      | ']' :: rest => (.cons head .closed, some rest)
      | _ => (.cons head .broken, none)

/-- At least one member and what follows it, up to the closing brace. -/
def readMembers : Nat → List Char → Members × Option (List Char)
  | 0, _ => (.broken, none)
  | fuel + 1, s =>
    match skipSpaces s with
    | '"' :: rest =>
      match readString rest with
      | none => (.broken, none)
      | some (key, rest) =>
        match skipSpaces rest with
        | ':' :: rest =>
          match readTree fuel rest with
          | (value, none) => (.cons key value .broken, none)
          | (value, some rest) =>
            match skipSpaces rest with
            | ',' :: rest =>
              let (tail, rest) := readMembers fuel rest
              (.cons key value tail, rest)
            | '\x7d' :: rest => (.cons key value .closed, some rest)
            | _ => (.cons key value .broken, none)
        | _ => (.cons key .broken .broken, none)
    | _ => (.broken, none)

end

/-- What a whole text says. -/
structure Reading where
  tree : Tree
  /-- whether only blanks follow the tree -/
  ended : Bool

/-- The reading of a text.  Two steps for each character are enough. -/
def Reading.ofText (text : String) : Reading :=
  let s := text.toList
  let (tree, rest) := readTree (2 * s.length + 2) s
  ⟨tree, match rest with
    | some rest => (skipSpaces rest).isEmpty
    | none => false⟩

end Json

end PropertyGraph
