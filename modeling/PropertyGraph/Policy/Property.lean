import PropertyGraph.Policy.Names

/-!
# Policies on properties

A policy on properties decides by the key and the element that holds the property.  The policy
with a list of keys asks for the key alone, and unlike a list of labels or types an empty list
of keys includes nothing.  A policy may stand behind a shared pointer, which passes each question
on.
-/

namespace PropertyGraph

/-- A decision about the properties of elements of type `ε`. -/
inductive PropertyPolicy (ε : Type) where
  | all
  | none
  /-- properties under one of the keys -/
  | keys (names : NameSet)
  /-- a policy behind a shared pointer -/
  | shared (policy : PropertyPolicy ε)
  /-- any other decision, under a name of its own -/
  | custom (name : String) (accepts : String → ε → Bool)

namespace PropertyPolicy

variable {ε : Type}

/-- Whether the policy includes the property of an element under a key. -/
def includes : PropertyPolicy ε → String → ε → Bool
  | .all, _, _ => true
  | .none, _, _ => false
  | .keys names, key, _ => names.contains key
  | .shared policy, key, element => includes policy key element
  | .custom _ accepts, key, element => accepts key element

/-- The policy that asks for one of the listed keys. -/
def ofKeys (names : List String) : Except Error (PropertyPolicy ε) :=
  (nameSet .propertyKey names).map .keys

end PropertyPolicy

end PropertyGraph
