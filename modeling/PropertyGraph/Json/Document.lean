import PropertyGraph.Number.Numeral

/-!
# JSON documents

What the library writes as JSON: a document, and its text without any blank.  A quotation mark, a
backslash and the control characters are escaped in strings, the latter by a letter where JSON has
one, and nothing else is.

* `Document.chars` — the text of a document;
* `Document.nesting` — how deep arrays and objects are nested in it;
* `itemNesting_le_iff`, `memberNesting_le_iff` — the nesting of items and of members is bounded by
  any bound of the nesting of each;
* `itemChars_cons_cons`, `memberChars_cons_cons` — items and members are separated by commas.
-/

namespace PropertyGraph

namespace Json

/-- A JSON document.  The members of an object are in the order in which they are written. -/
inductive Document where
  | null
  | bool (b : Bool)
  | number (n : Numeral)
  | string (s : String)
  | array (items : List Document)
  | object (members : List (String × Document))

instance : Inhabited Document := ⟨.null⟩

/-- Numbers in JSON are written out from `10 ^ -5` up to below `10 ^ 16`, with a point in any case;
others have an exponent with its sign. -/
def numberLayout : Layout := ⟨.toEven, some (-5, 15), true, true⟩

/-- The two hexadecimal digits of a number below 256. -/
def hexPair (n : Nat) : List Char := [Nat.digitChar (n / 16), Nat.digitChar (n % 16)]

/-- A character in a string. -/
def escapeChar (c : Char) : List Char :=
  if c = '"' then ['\\', '"']
  else if c = '\\' then ['\\', '\\']
  else if c = '\x08' then ['\\', 'b']
  else if c = '\x0c' then ['\\', 'f']
  else if c = '\n' then ['\\', 'n']
  else if c = '\r' then ['\\', 'r']
  else if c = '\t' then ['\\', 't']
  else if c.toNat < 0x20 then '\\' :: 'u' :: '0' :: '0' :: hexPair c.toNat
  else [c]

/-- The text of a string. -/
def stringChars (s : String) : List Char :=
  '"' :: (s.toList.flatMap escapeChar ++ ['"'])

namespace Document

mutual

/-- The text of a document. -/
def chars : Document → List Char
  | .null => ['n', 'u', 'l', 'l']
  | .bool true => ['t', 'r', 'u', 'e']
  | .bool false => ['f', 'a', 'l', 's', 'e']
  | .number n => n.chars true
  | .string s => stringChars s
  | .array items => '[' :: (itemChars items ++ [']'])
  | .object members => '\x7b' :: (memberChars members ++ ['\x7d'])

/-- The text of the items of an array. -/
def itemChars : List Document → List Char
  | [] => []
  | [d] => d.chars
  | d :: e :: rest => d.chars ++ ',' :: itemChars (e :: rest)

/-- The text of the members of an object. -/
def memberChars : List (String × Document) → List Char
  | [] => []
  | [(k, d)] => stringChars k ++ ':' :: d.chars
  | (k, d) :: e :: rest => stringChars k ++ ':' :: (d.chars ++ ',' :: memberChars (e :: rest))

end

mutual

/-- The greatest number of arrays and objects that stand one inside the other. -/
def nesting : Document → Nat
  | .array items => itemNesting items + 1
  | .object members => memberNesting members + 1
  | _ => 0

/-- The greatest nesting of the items of an array. -/
def itemNesting : List Document → Nat
  | [] => 0
  | d :: rest => max d.nesting (itemNesting rest)

/-- The greatest nesting of the members of an object. -/
def memberNesting : List (String × Document) → Nat
  | [] => 0
  | (_, d) :: rest => max d.nesting (memberNesting rest)

end

theorem itemNesting_le_iff {items : List Document} {depth : Nat} :
    itemNesting items ≤ depth ↔ ∀ d ∈ items, d.nesting ≤ depth := by
  induction items with
  | nil => simp [itemNesting]
  | cons d rest ih => rw [itemNesting, Nat.max_le, ih, List.forall_mem_cons]

theorem memberNesting_le_iff {members : List (String × Document)} {depth : Nat} :
    memberNesting members ≤ depth ↔ ∀ m ∈ members, m.2.nesting ≤ depth := by
  induction members with
  | nil => simp [memberNesting]
  | cons m rest ih => rw [memberNesting, Nat.max_le, ih, List.forall_mem_cons]

theorem itemChars_cons_cons (d e : Document) (rest : List Document) :
    itemChars (d :: e :: rest) = d.chars ++ ',' :: itemChars (e :: rest) := by
  simp [itemChars]

theorem memberChars_cons_cons (k : String) (d : Document) (e : String × Document)
    (rest : List (String × Document)) :
    memberChars ((k, d) :: e :: rest) =
      stringChars k ++ ':' :: (d.chars ++ ',' :: memberChars (e :: rest)) := by
  simp [memberChars]

/-- The text of a document as a string. -/
def text (d : Document) : String := String.ofList d.chars

/-- The document of an integer. -/
def int (i : Int) : Document := .number (.ofInt i)

/-- The document of a floating-point number: null if it is not finite. -/
def float (x : Binary64) : Document :=
  if x.isFinite then .number (numberLayout.numeral x) else .null

/-- The document of a list of strings. -/
def strings (l : List String) : Document := .array (l.map .string)

end Document

end Json

end PropertyGraph
