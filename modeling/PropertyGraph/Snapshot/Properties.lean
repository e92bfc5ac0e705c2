import PropertyGraph.Element.Basic
import PropertyGraph.Value.Text
import Std.Data.HashMap
import Std.Data.TreeMap

/-!
# Properties in snapshots

A snapshot keeps the text of each property.  The texts are held in a map in the order of their
keys, so it does not matter how the map was filled, and two maps are compared as the lists of
their entries.  A search tree already has its entries in that order, and they are taken over as
they stand; a hashed map has them in none.

A map of texts matches live properties if both have the same keys and each text is the text of
the live value.  The check counts the keys and looks each live key up.

* `display_eq` — the entries that are written one after the other are joined by commas.
-/

namespace PropertyGraph

/-- The texts of properties. -/
abbrev TextMap := OrderedMap String String

namespace TextMap

/-- The texts of live properties. -/
def ofLive (live : PropertyMap) : TextMap := live.map Value.text

/-- The entries of a search tree, which come in the order of their keys. -/
def ofTreeMap (m : Std.TreeMap String String) : TextMap := ⟨m.toList, m.ordered_keys_toList⟩

/-- The texts as a search tree. -/
def toTreeMap (m : TextMap) : Std.TreeMap String String := .ofList m.entries

/-- The entries of a hashed map, in whatever order it gives them. -/
def ofHashMap (m : Std.HashMap String String) : TextMap := .ofList m.toList

/-- Whether the texts are those of the live properties, and of no other keys. -/
def matchesLive (m : TextMap) (live : PropertyMap) : Bool :=
  live.size == m.size && live.entries.all fun (k, v) => m.get? k == some v.text

/-- The comparison of two maps of texts: by their entries, from the first on, each by its key and
then its text. -/
def compareEntries (a b : TextMap) : Ordering :=
  List.compareLex (fun x y => (compare x.1 y.1).then (compare x.2 y.2)) a.entries b.entries

/-- The entries in braces, written one after the other. -/
def display (m : TextMap) : String :=
  "\x7b" ++ writtenFrom (fun (k, v) => k ++ ": " ++ v) 0 m.entries ++ "\x7d"

theorem display_eq (m : TextMap) :
    m.display =
      "\x7b" ++ ", ".intercalate (m.entries.map fun (k, v) => k ++ ": " ++ v) ++ "\x7d" := by
  rw [display, writtenFrom_zero]

end TextMap

end PropertyGraph
