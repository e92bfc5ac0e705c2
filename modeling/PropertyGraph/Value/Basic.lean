import PropertyGraph.Calendar.Timestamp
import PropertyGraph.Number.Binary64

/-!
# Property values

A property of a node or a relationship holds a scalar, a list, a point in time or a point in
the plane.

Two notions of equality live side by side.  `=` is identity of values.  `Value.equals` is the
comparison that users see: it looks inside lists and points and compares floating-point numbers
as numbers, so a NaN differs from itself and the two zeros are equal.

* `Value.equalsEach_eq` — lists are compared element by element.
-/

namespace PropertyGraph

/-- A value that a property can hold. -/
inductive Value where
  | null
  | bool (b : Bool)
  | int (i : Int64)
  | float (x : Binary64)
  | string (s : String)
  | bytes (bs : List UInt8)
  | list (vs : List Value)
  | date (d : Date)
  /-- a point in time in UTC -/
  | dateTime (t : Timestamp)
  /-- a point in time on an unnamed local clock -/
  | localDateTime (t : Timestamp)
  /-- a point in the plane of a spatial reference system -/
  | point (srid : Int32) (x y : Binary64)

instance : Inhabited Value := ⟨.null⟩

namespace Value

mutual

/-- Equality as users see it: structural, with floating-point numbers compared as numbers. -/
def equals : Value → Value → Bool
  | .null, .null => true
  | .bool a, .bool b => a == b
  | .int a, .int b => a == b
  | .float a, .float b => a.equals b
  | .string a, .string b => a == b
  | .bytes a, .bytes b => a == b
  | .list a, .list b => equalsEach a b
  | .date a, .date b => decide (a = b)
  | .dateTime a, .dateTime b => decide (a = b)
  | .localDateTime a, .localDateTime b => decide (a = b)
  | .point s a b, .point t c d => s == t && a.equals c && b.equals d
  | _, _ => false

/-- Equality of two lists, element by element. -/
def equalsEach : List Value → List Value → Bool
  | [], [] => true
  | a :: as, b :: bs => equals a b && equalsEach as bs
  | _, _ => false

end

/-- Two lists are equal iff they have the same length and equal elements at each position. -/
theorem equalsEach_eq (as bs : List Value) :
    equalsEach as bs =
      (as.length == bs.length && (as.zip bs).all fun (a, b) => a.equals b) := by
  induction as generalizing bs with
  | nil => cases bs <;> simp [equalsEach]
  | cons a as ih =>
    cases bs with
    | nil => simp [equalsEach]
    | cons b bs =>
      simp only [equalsEach, ih, List.length_cons, List.zip_cons_cons, List.all_cons]
      cases h : equals a b <;> simp

instance : BEq Value := ⟨equals⟩

end Value

end PropertyGraph
