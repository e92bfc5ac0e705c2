import PropertyGraph.Calendar.Reading
import PropertyGraph.Calendar.Text
import PropertyGraph.Json.Decoder
import PropertyGraph.Json.Document
import PropertyGraph.Value.Basic

/-!
# Values in JSON

A value is an object with the name of its kind under `type` and its contents under `value`; null
has no contents.  A reader takes the two members in either order and passes over others, and it
also takes an array of the kind and the contents.  Under `type` the kind may be spelled as any
choice by name; in an array it must be the bare name.

If the contents come first, they are set aside until the kind is known.  Contents that are set
aside must be sound as a whole, and inside them a kind has one more spelling that is not accepted
elsewhere: under `type` an object with an empty object in it, and in an array the position of the
kind among all kinds.

* `Value.document` — the document of a value;
* `Value.decoder` — the reader.
-/

namespace PropertyGraph

/-- The kinds of values. -/
inductive ValueKind where
  | null
  | bool
  | int
  | float
  | string
  | bytes
  | list
  | date
  | dateTime
  | localDateTime
  | point
  deriving DecidableEq

/-- The kinds under the names that they have in JSON. -/
def ValueKind.choices : List (String × ValueKind) :=
  [("Null", .null), ("Bool", .bool), ("Int", .int), ("Float", .float), ("String", .string),
    ("Bytes", .bytes), ("List", .list), ("Date", .date), ("DateTime", .dateTime),
    ("LocalDateTime", .localDateTime), ("Point2D", .point)]

/-- The name of a kind in JSON. -/
def ValueKind.name : ValueKind → String
  | .null => "Null"
  | .bool => "Bool"
  | .int => "Int"
  | .float => "Float"
  | .string => "String"
  | .bytes => "Bytes"
  | .list => "List"
  | .date => "Date"
  | .dateTime => "DateTime"
  | .localDateTime => "LocalDateTime"
  | .point => "Point2D"

/-- Every kind is found under its name. -/
theorem ValueKind.findVariant_name (k : ValueKind) :
    Json.findVariant ValueKind.choices k.name = .ok k := by
  cases k <;> rfl

namespace Value

open Json

/-- The kind of a value. -/
def kind : Value → ValueKind
  | .null => .null
  | .bool _ => .bool
  | .int _ => .int
  | .float _ => .float
  | .string _ => .string
  | .bytes _ => .bytes
  | .list _ => .list
  | .date _ => .date
  | .dateTime _ => .dateTime
  | .localDateTime _ => .localDateTime
  | .point _ _ _ => .point

/-! ## Writing -/

/-- An object with a kind and contents. -/
def tagged (kind : ValueKind) (contents : Document) : Document :=
  .object [("type", .string kind.name), ("value", contents)]

mutual

/-- The document of a value. -/
def document : Value → Document
  | .null => .object [("type", .string ValueKind.null.name)]
  | .bool b => tagged .bool (.bool b)
  | .int i => tagged .int (.int i.toInt)
  | .float x => tagged .float (.float x)
  | .string s => tagged .string (.string s)
  | .bytes bs => tagged .bytes (.array (bs.map fun b => .int b.toNat))
  | .list vs => tagged .list (.array (documents vs))
  | .date d => tagged .date (.string (String.ofList d.chars))
  | .dateTime t => tagged .dateTime (.string (String.ofList (t.chars 'T' ++ ['Z'])))
  | .localDateTime t => tagged .localDateTime (.string (String.ofList (t.chars 'T')))
  | .point srid x y =>
    tagged .point
      (.object [("srid", .int srid.toInt), ("x", .float x), ("y", .float y)])

/-- The documents of several values. -/
def documents : List Value → List Document
  | [] => []
  | v :: vs => document v :: documents vs

end

theorem documents_eq_map (vs : List Value) : documents vs = vs.map document := by
  induction vs with
  | nil => rfl
  | cons v vs ih => simp [documents, ih]

/-! ## Reading -/

/-- A byte. -/
def readByte : Decoder UInt8 :=
  readNumber fun n => (n.toBounded? 0 255).map fun i => UInt8.ofNat i.toNat

/-- A string that a reader of characters accepts. -/
def readSpelled {α : Type} (read : List Char → Option α) : Decoder α
  | _, .string (some s) => orUnreadable (read s.toList)
  | _, _ => .error .unreadable

/-- The number of a spatial reference system. -/
def readSrid : Decoder Int32 :=
  readNumber fun n => (n.toBounded? Int32.minValue.toInt Int32.maxValue.toInt).map Int32.ofInt

/-- A floating-point number. -/
def readFloat : Decoder Binary64 := readNumber Numeral.toBinary64?

/-- The parts of a point. -/
structure PointParts where
  srid : Int32
  x : Binary64
  y : Binary64

/-- The fields of a point. -/
def pointFields : List (RecordField PointParts) :=
  [.reading "srid" true readSrid fun p srid => { p with srid },
    .reading "x" true readFloat fun p x => { p with x },
    .reading "y" true readFloat fun p y => { p with y }]

/-- A point; unlike other records it is never an array. -/
def readPoint : Decoder Value
  | depth, .object members =>
    (readRecord pointFields false ⟨0, .zero, .zero⟩ depth (.object members)).map fun p =>
      .point p.srid p.x p.y
  | _, _ => .error .unreadable

/-- The kind under `type`. -/
def readKind (lax : Bool) : Decoder ValueKind := readVariant ValueKind.choices lax

/-- The kind in an array: its name, or with `lax` its position among all kinds. -/
def readKindItem (lax : Bool) : Decoder ValueKind
  | _, .string (some name) => findVariant ValueKind.choices name
  | _, .number n =>
    if lax then
      orUnreadable do
        let position ← n.toUnsigned?
        let (_, kind) ← ValueKind.choices[position.toNat]?
        return kind
    else .error .unreadable
  | _, _ => .error .unreadable

/-- How far the members of an object have been understood as a value. -/
inductive Progress where
  | start
  /-- the kind is known and the contents are not -/
  | kind (kind : ValueKind)
  /-- the contents are set aside until the kind is known -/
  | contents (read : ValueKind → Except Fault Value)
  /-- both are known -/
  | done (v : Value)

/-- The value that has been understood at the end of the object. -/
def Progress.finish : Progress → Except Fault Value
  | .start => .error (.missingField "type")
  | .kind .null => .ok .null
  | .kind _ => .error (.missingField "value")
  | .contents _ => .error (.missingField "type")
  | .done v => .ok v

mutual

/-- A value.  With `lax`, it stands in contents that were set aside. -/
def readValue (lax : Bool) : Nat → Tree → Except Fault Value
  | depth + 1, .array items => readValueItems lax depth items
  | depth + 1, .object members => readValueMembers lax depth .start members
  | _, _ => .error .unreadable

/-- Contents of a given kind. -/
def readContents (lax : Bool) : Nat → Tree → ValueKind → Except Fault Value
  | depth, t, kind =>
    match kind, t with
    | .null, .null => .ok .null
    | .bool, t => (readBool depth t).map .bool
    | .int, t => (readNumber Numeral.toSigned? depth t).map .int
    | .float, t => (readFloat depth t).map .float
    | .string, t => (readText depth t).map .string
    | .bytes, t => (readList readByte depth t).map .bytes
    | .list, .array items =>
      match depth with
      | depth + 1 => (readValues lax depth items).map .list
      | 0 => .error .unreadable
    | .date, t => (readSpelled Date.read? depth t).map .date
    | .dateTime, t => (readSpelled Timestamp.readUtc? depth t).map .dateTime
    | .localDateTime, t => (readSpelled Timestamp.readLocal? depth t).map .localDateTime
    | .point, t => readPoint depth t
    | _, _ => .error .unreadable

/-- The values in an array. -/
def readValues (lax : Bool) : Nat → Items → Except Fault (List Value)
  | _, .closed => .ok []
  | _, .broken => .error .unreadable
  | depth, .cons head tail => do
    let v ← readValue lax depth head
    let vs ← readValues lax depth tail
    return v :: vs

/-- A value as an array: its kind and its contents, and nothing else. -/
def readValueItems (lax : Bool) : Nat → Items → Except Fault Value
  | depth, .cons kind (.cons contents tail) => do
    let kind ← readKindItem lax depth kind
    let v ← readContents lax depth contents kind
    match tail with
    | .closed => return v
    | _ => throw .unreadable
  | depth, .cons kind _ => do
    let _ ← readKindItem lax depth kind
    throw .unreadable
  | _, _ => .error .unreadable

/-- A value as the members of an object. -/
def readValueMembers (lax : Bool) : Nat → Progress → Members → Except Fault Value
  | _, progress, .closed => progress.finish
  | _, _, .broken => .error .unreadable
  | _, _, .cons none _ _ => .error .unreadable
  | depth, progress, .cons (some key) t tail =>
    if key = "type" then
      match progress with
      | .start => do
        let kind ← readKind lax depth t
        readValueMembers lax depth (.kind kind) tail
      | .contents read => do
        let kind ← readKind lax depth t
        let v ← read kind
        readValueMembers lax depth (.done v) tail
      | .kind _ => .error (.duplicateField "type")
      | .done _ => .error (.duplicateField "type")
    else if key = "value" then
      match progress with
      | .start =>
        if t.isSound depth then
          readValueMembers lax depth (.contents (readContents true depth t)) tail
        else .error .unreadable
      | .kind kind => do
        let v ← readContents lax depth t kind
        readValueMembers lax depth (.done v) tail
      | .contents _ => .error (.duplicateField "value")
      | .done _ => .error (.duplicateField "value")
    else if t.isWhole then readValueMembers lax depth progress tail
    else .error .unreadable

end

/-- The reader of a value. -/
def decoder : Decoder Value := readValue false

end Value

end PropertyGraph
