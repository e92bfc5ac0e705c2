import PropertyGraph.Collection.OrderedMap
import PropertyGraph.Json.Fault
import PropertyGraph.Json.Reading

/-!
# Decoders

A decoder makes something of a tree.  It is told how many arrays and objects it may still enter,
it walks the tree in the order of the text, and the first problem it meets is its answer.

This module has the decoders for plain contents (strings, integers, lists, maps), for choices by
name (`readVariant`) and for records (`readRecord`).  A record is an object whose members are its
fields, or an array of its fields in order.

* `Reading.decode` — what a decoder makes of a whole text.
-/

namespace PropertyGraph

namespace Json

/-- What a decoder makes of a tree when it may enter so many arrays and objects. -/
abbrev Decoder (α : Type) := Nat → Tree → Except Fault α

/-- The arrays and objects that may be nested in a text. -/
def nestingLimit : Nat := 127

/-- What a decoder makes of a text.  Only after the contents have been accepted is the end of the
text looked at. -/
def decodeText {α : Type} (decoder : Decoder α) (text : String) : Except Fault α := do
  let reading := Reading.ofText text
  let a ← decoder nestingLimit reading.tree
  if reading.ended then return a else throw .unreadable

/-- The value that is there, or a fault of form. -/
def orUnreadable {α : Type} : Option α → Except Fault α
  | some a => .ok a
  | none => .error .unreadable

/-- A string. -/
def readText : Decoder String
  | _, .string (some s) => .ok s
  | _, _ => .error .unreadable

/-- A truth value. -/
def readBool : Decoder Bool
  | _, .bool b => .ok b
  | _, _ => .error .unreadable

/-- A number that a function on numerals accepts. -/
def readNumber {α : Type} (accept : Numeral → Option α) : Decoder α
  | _, .number n => orUnreadable (accept n)
  | _, _ => .error .unreadable

/-- The items of an array, each by the same decoder. -/
def readEach {α : Type} (decoder : Tree → Except Fault α) : Items → Except Fault (List α)
  | .closed => .ok []
  | .broken => .error .unreadable
  | .cons head tail => do
    let a ← decoder head
    let rest ← readEach decoder tail
    return a :: rest

/-- An array. -/
def readList {α : Type} (decoder : Decoder α) : Decoder (List α)
  | depth + 1, .array items => readEach (decoder depth) items
  | _, _ => .error .unreadable

/-- The members of an object, put one after the other into a map. -/
def readEntries {α : Type} (decoder : Tree → Except Fault α) :
    OrderedMap String α → Members → Except Fault (OrderedMap String α)
  | m, .closed => .ok m
  | _, .broken => .error .unreadable
  | _, .cons none _ _ => .error .unreadable
  | m, .cons (some key) value tail => do
    let a ← decoder value
    readEntries decoder (m.insert key a) tail

/-- An object as a map; of members with the same key the last one counts. -/
def readMap {α : Type} (decoder : Decoder α) : Decoder (OrderedMap String α)
  | depth + 1, .object members => readEntries (decoder depth) .empty members
  | _, _ => .error .unreadable

/-! ## Choices by name -/

/-- The choice with a name, or the fault that there is none. -/
def findVariant {α : Type} (choices : List (String × α)) (name : String) : Except Fault α :=
  match choices.find? (·.1 == name) with
  | some (_, a) => .ok a
  | none => .error (.unknownVariant name (choices.map Prod.fst))

/-- The contents of a choice that has none: null; or, if `lax`, an object without members. -/
def isUnit (lax : Bool) : Tree → Bool
  | .null => true
  | .object .closed => lax
  | _ => false

/-- Whether the members of an object end here. -/
def Members.isClosed : Members → Bool
  | .closed => true
  | _ => false

/-- One of several choices: its name as a string, or an object whose only member has that name
and no contents.  If `lax`, other members are noticed before the name is looked up. -/
def readVariant {α : Type} (choices : List (String × α)) (lax : Bool) : Decoder α
  | _, .string (some name) => findVariant choices name
  | _ + 1, .object (.cons (some name) value tail) =>
    if lax && !tail.isClosed then .error .unreadable
    else do
      let a ← findVariant choices name
      if isUnit lax value && tail.isClosed then return a else throw .unreadable
  | _, _ => .error .unreadable

/-! ## Records -/

/-- A field of a record: its name, whether it may be left out, and how it is set. -/
structure RecordField (σ : Type) where
  name : String
  required : Bool
  set : Nat → Tree → σ → Except Fault σ

/-- A field that a decoder reads. -/
def RecordField.reading {α σ : Type} (name : String) (required : Bool) (decoder : Decoder α)
    (put : σ → α → σ) : RecordField σ :=
  ⟨name, required, fun depth t s => (decoder depth t).map (put s)⟩

section Record

variable {σ : Type}

/-- The fields of a record in order from the items of an array.  Only fields at the end that may
be left out can be missing. -/
def readFieldItems (depth : Nat) : List (RecordField σ) → σ → Items → Except Fault σ
  | _, _, .broken => .error .unreadable
  | [], s, .closed => .ok s
  | [], _, .cons _ _ => .error .unreadable
  | field :: fields, s, .closed =>
    if (field :: fields).any (·.required) then .error .unreadable else .ok s
  | field :: fields, s, .cons head tail => do
    let s ← field.set depth head s
    readFieldItems depth fields s tail

/-- The fields of a record from the members of an object, given the names seen before.  A name
that is no field is a fault if `strict`; otherwise its member is passed over. -/
def readFieldMembers (fields : List (RecordField σ)) (strict : Bool) (depth : Nat) :
    List String → σ → Members → Except Fault σ
  | seen, s, .closed =>
    match fields.find? fun field => field.required && !seen.contains field.name with
    | some field => .error (.missingField field.name)
    | none => .ok s
  | _, _, .broken => .error .unreadable
  | _, _, .cons none _ _ => .error .unreadable
  | seen, s, .cons (some key) value tail =>
    match fields.find? (·.name == key) with
    | some field =>
      if seen.contains key then .error (.duplicateField key)
      else do
        let s ← field.set depth value s
        readFieldMembers fields strict depth (key :: seen) s tail
    | none =>
      if strict then .error (.unknownField key (fields.map (·.name)))
      else if value.isWhole then readFieldMembers fields strict depth seen s tail
      else .error .unreadable

/-- A record: an object whose members are its fields, or an array of its fields in order.
`blank` is the record in which the fields are set. -/
def readRecord (fields : List (RecordField σ)) (strict : Bool) (blank : σ) : Decoder σ
  | depth + 1, .array items => readFieldItems depth fields blank items
  | depth + 1, .object members => readFieldMembers fields strict depth [] blank members
  | _, _ => .error .unreadable

end Record

end Json

end PropertyGraph
