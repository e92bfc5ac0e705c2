import PropertyGraph.Calendar.Text
import PropertyGraph.Number.Numeral
import PropertyGraph.Value.Basic

/-!
# The two texts of a value

`Value.text` is the text that snapshots keep: strings stand as they are, a floating-point number
shows that it is one, and bytes are listed.  `Value.display` is the text for people: strings are
quoted, numbers are written out, and bytes are only counted.  The two agree on everything else.

Inside a point the numbers are always written as `Value.display` writes them.

The elements of a list come about in two ways: for a snapshot their texts are gathered first and
then joined, while for people the elements are written one after the other, each but the first
behind a comma.

* `writtenFrom_zero` — what is written one after the other is joined by commas as well;
* `text_list`, `display_list` — so both texts of a list are those of its elements in brackets.
-/

namespace PropertyGraph

/-- Numbers in snapshot texts are written out from `10 ^ -4` up to below `10 ^ 16`, with a point in
any case; others have an exponent without a plus sign. -/
def textLayout : Layout := ⟨.up, some (-4, 15), true, false⟩

/-- Numbers in display texts are written out whatever their size, without a superfluous point. -/
def displayLayout : Layout := ⟨.up, none, false, false⟩

/-- Texts in square brackets with commas between them. -/
def bracketed (items : List String) : String := "[" ++ ", ".intercalate items ++ "]"

/-- Items written one after the other from a position on, with a comma before each one that is not
the first. -/
def writtenFrom {α : Type} (write : α → String) (position : Nat) : List α → String
  | [] => ""
  | a :: items =>
    (if 0 < position then ", " else "") ++ write a ++ writtenFrom write (position + 1) items

/-- Items behind others have a comma before each of them. -/
theorem writtenFrom_cons {α : Type} (write : α → String) (a : α) (items : List α) (position : Nat) :
    writtenFrom write position (a :: items) =
      (if 0 < position then ", " else "") ++ ", ".intercalate ((a :: items).map write) := by
  induction items generalizing a position with
  | nil => simp [writtenFrom]
  | cons b items ih =>
    rw [writtenFrom, ih b (position + 1), if_pos (Nat.succ_pos position)]
    simp [String.append_assoc]

/-- **Items that are written one after the other are joined by commas.** -/
theorem writtenFrom_zero {α : Type} (write : α → String) (items : List α) :
    writtenFrom write 0 items = ", ".intercalate (items.map write) := by
  cases items with
  | nil => simp [writtenFrom]
  | cons a items => simp [writtenFrom_cons]

/-- A string with a backslash before each quotation mark; backslashes stay as they are. -/
def escapeQuotes (s : String) : String :=
  String.ofList (s.toList.flatMap fun c => if c = '"' then ['\\', '"'] else [c])

namespace Value

/-- The display text of a floating-point number. -/
def displayFloat (x : Binary64) : String := String.ofList (displayLayout.chars x)

/-- The text of a point. -/
def displayPoint (srid : Int32) (x y : Binary64) : String :=
  "point(\x7bsrid: " ++ toString srid.toInt ++ ", x: " ++ displayFloat x ++
    ", y: " ++ displayFloat y ++ "\x7d)"

mutual

/-- The text of a value for people. -/
def display : Value → String
  | .null => "null"
  | .bool b => if b then "true" else "false"
  | .int i => toString i.toInt
  | .float x => displayFloat x
  | .string s => "\"" ++ escapeQuotes s ++ "\""
  | .bytes bs => "<bytes[" ++ toString bs.length ++ "]>"
  | .list vs => "[" ++ displayFrom 0 vs ++ "]"
  | .date d => String.ofList d.chars
  | .dateTime t => String.ofList (t.chars ' ') ++ " UTC"
  | .localDateTime t => String.ofList (t.chars ' ')
  | .point srid x y => displayPoint srid x y

/-- The display texts of the elements of a list from a position on, with a comma before each one
that is not the first of the list. -/
def displayFrom (position : Nat) : List Value → String
  | [] => ""
  | v :: vs =>
    (if 0 < position then ", " else "") ++ display v ++ displayFrom (position + 1) vs

end

mutual

/-- The text of a value in a snapshot. -/
def text : Value → String
  | .string s => s
  | .float x => String.ofList (textLayout.chars x)
  | .bytes bs => bracketed (bs.map fun b => toString b.toNat)
  | .list vs => bracketed (textEach vs)
  | .null => display .null
  | .bool b => display (.bool b)
  | .int i => display (.int i)
  | .date d => display (.date d)
  | .dateTime t => display (.dateTime t)
  | .localDateTime t => display (.localDateTime t)
  | .point srid x y => display (.point srid x y)

/-- The snapshot texts of the elements of a list. -/
def textEach : List Value → List String
  | [] => []
  | v :: vs => text v :: textEach vs

end

theorem textEach_eq_map (vs : List Value) : textEach vs = vs.map text := by
  induction vs with
  | nil => rfl
  | cons v vs ih => simp [textEach, ih]

theorem text_list (vs : List Value) : text (.list vs) = bracketed (vs.map text) := by
  rw [text, textEach_eq_map]

theorem displayFrom_eq_writtenFrom (position : Nat) (vs : List Value) :
    displayFrom position vs = writtenFrom display position vs := by
  induction vs generalizing position with
  | nil => rfl
  | cons v vs ih => rw [displayFrom, writtenFrom, ih]

theorem display_list (vs : List Value) : display (.list vs) = bracketed (vs.map display) := by
  rw [display, displayFrom_eq_writtenFrom, writtenFrom_zero, bracketed]

end Value

end PropertyGraph
