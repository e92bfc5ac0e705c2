/-!
# Identifiers

Nodes, relationships and transactions are numbered by the store that hands them out.  The three
kinds of number are three types, so none is taken for another.  They are compared by number.
-/

namespace PropertyGraph

/-- The number of a node. -/
structure NodeId where
  number : UInt64
  deriving DecidableEq

/-- The number of a relationship. -/
structure RelationshipId where
  number : UInt64
  deriving DecidableEq

/-- The number of a transaction. -/
structure TransactionId where
  number : UInt64
  deriving DecidableEq

/-- Kinds of id: an id is nothing but its number. -/
class Numbered (ι : Type) where
  number : ι → UInt64
  ofNumber : UInt64 → ι
  number_ofNumber : ∀ n, number (ofNumber n) = n
  ofNumber_number : ∀ id, ofNumber (number id) = id

instance : Numbered NodeId := ⟨NodeId.number, NodeId.mk, fun _ => rfl, fun _ => rfl⟩

instance : Numbered RelationshipId :=
  ⟨RelationshipId.number, RelationshipId.mk, fun _ => rfl, fun _ => rfl⟩

instance : Numbered TransactionId :=
  ⟨TransactionId.number, TransactionId.mk, fun _ => rfl, fun _ => rfl⟩

namespace Numbered

variable {ι : Type} [Numbered ι]

theorem number_inj {a b : ι} (h : number a = number b) : a = b := by
  rw [← ofNumber_number a, ← ofNumber_number b, h]

instance (priority := low) : Ord ι := ⟨fun a b => compare (number a) (number b)⟩

instance (priority := low) : Std.TransOrd ι where
  eq_swap {a b} := show compare (number a) (number b) = (compare (number b) (number a)).swap from
    Std.OrientedCmp.eq_swap
  isLE_trans {a b c} hab hbc := show (compare (number a) (number c)).isLE from
    Std.TransCmp.isLE_trans (show (compare (number a) (number b)).isLE from hab)
      (show (compare (number b) (number c)).isLE from hbc)

instance (priority := low) : Std.LawfulEqOrd ι where
  compare_self {a} := show compare (number a) (number a) = .eq from Std.ReflCmp.compare_self
  eq_of_compare {a b} h := number_inj
    (Std.LawfulEqCmp.eq_of_compare (show compare (number a) (number b) = .eq from h))

/-- The number of an id, as a natural number. -/
def ordinal (id : ι) : Nat := (number id).toNat

/-- The id with the next number after a count. -/
def next (count : UInt64) : ι := ofNumber (count + 1)

theorem ordinal_inj {a b : ι} (h : ordinal a = ordinal b) : a = b :=
  number_inj (UInt64.toNat_inj.1 h)

theorem compare_eq_lt {a b : ι} : compare a b = .lt ↔ ordinal a < ordinal b := by
  show compare (number a) (number b) = .lt ↔ (number a).toNat < (number b).toNat
  rw [Std.compare_eq_lt, UInt64.lt_iff_toNat_lt]

/-- Counting goes on as long as there are numbers left. -/
theorem toNat_add_one {count : UInt64} (h : count.toNat + 1 < UInt64.size) :
    (count + 1).toNat = count.toNat + 1 := by
  rw [UInt64.toNat_add]
  exact Nat.mod_eq_of_lt h

theorem ordinal_next {count : UInt64} (h : count.toNat + 1 < UInt64.size) :
    ordinal (next count : ι) = count.toNat + 1 := by
  rw [ordinal, next, number_ofNumber, toNat_add_one h]

end Numbered

/-- A node is shown by its number. -/
def NodeId.display (id : NodeId) : String := toString id.number.toNat

/-- A relationship is shown by its number. -/
def RelationshipId.display (id : RelationshipId) : String := toString id.number.toNat

/-- A transaction is shown by its number with a mark before it. -/
def TransactionId.display (id : TransactionId) : String := "tx-" ++ toString id.number.toNat

end PropertyGraph
