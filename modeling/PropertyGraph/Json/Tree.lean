import PropertyGraph.Number.Reading

/-!
# What a text says as JSON, up to its first fault

Reading a text as JSON never fails here: it gives a tree of what the text says, and where the
text departs from the grammar the tree is *broken* at that place and ends.  Whoever makes
something of the tree walks it in the order of the text and stops at the first problem, be it of
form or of content.  So the faults of the text itself need no priority over the faults that are
found in what comes before them.

A tree keeps more than a decoder needs, and judges less: a number is kept as its numeral, and a
string whose escapes do not spell a text is kept as `none`.  Three conditions on a tree matter:

* `Tree.isWhole` — nothing in it is broken;
* `Tree.isSound` — moreover all its strings and numbers can be read and it is not nested too deep;
* `Tree.isWhole_of_isSound` — the second includes the first.
-/

namespace PropertyGraph

namespace Json

mutual

/-- What a text says as JSON. -/
inductive Tree where
  | null
  | bool (b : Bool)
  | number (n : Numeral)
  /-- a string, or `none` if its escapes do not spell a text -/
  | string (s : Option String)
  | array (items : Items)
  | object (members : Members)
  /-- no value where there should be one -/
  | broken

/-- The items of an array, up to its closing bracket or to the fault in its place. -/
inductive Items where
  | closed
  | broken
  | cons (head : Tree) (tail : Items)

/-- The members of an object, up to its closing brace or to the fault in its place. -/
inductive Members where
  | closed
  | broken
  | cons (key : Option String) (value : Tree) (tail : Members)

end

instance : Inhabited Tree := ⟨.broken⟩

mutual

/-- Whether nothing in the tree is broken. -/
def Tree.isWhole : Tree → Bool
  | .array items => items.isWhole
  | .object members => members.isWhole
  | .broken => false
  | _ => true

/-- Whether nothing in the items is broken. -/
def Items.isWhole : Items → Bool
  | .closed => true
  | .broken => false
  | .cons head tail => head.isWhole && tail.isWhole

/-- Whether nothing in the members is broken. -/
def Members.isWhole : Members → Bool
  | .closed => true
  | .broken => false
  | .cons _ value tail => value.isWhole && tail.isWhole

end

mutual

/-- Whether the tree can be read in full: nothing is broken, every string spells a text, every
number is in range, and at most `depth` arrays and objects are nested. -/
def Tree.isSound : Nat → Tree → Bool
  | _, .null => true
  | _, .bool _ => true
  | _, .number n => n.inRange
  | _, .string s => s.isSome
  | 0, .array _ => false
  | 0, .object _ => false
  | depth + 1, .array items => Items.isSound depth items
  | depth + 1, .object members => Members.isSound depth members
  | _, .broken => false

/-- Whether the items can be read in full. -/
def Items.isSound : Nat → Items → Bool
  | _, .closed => true
  | _, .broken => false
  | depth, .cons head tail => Tree.isSound depth head && Items.isSound depth tail

/-- Whether the members can be read in full. -/
def Members.isSound : Nat → Members → Bool
  | _, .closed => true
  | _, .broken => false
  | depth, .cons key value tail =>
    key.isSome && (Tree.isSound depth value && Members.isSound depth tail)

end

mutual

/-- What can be read in full is whole. -/
theorem Tree.isWhole_of_isSound : ∀ (depth : Nat) (t : Tree),
    t.isSound depth = true → t.isWhole = true
  | _, .null, _ => rfl
  | _, .bool _, _ => rfl
  | _, .number _, _ => rfl
  | _, .string _, _ => rfl
  | 0, .array _, h => by simp [Tree.isSound] at h
  | 0, .object _, h => by simp [Tree.isSound] at h
  | depth + 1, .array items, h => by
    simpa [Tree.isWhole] using
      Items.isWhole_of_isSound depth items (by simpa [Tree.isSound] using h)
  | depth + 1, .object members, h => by
    simpa [Tree.isWhole] using
      Members.isWhole_of_isSound depth members (by simpa [Tree.isSound] using h)
  | _, .broken, h => by simp [Tree.isSound] at h

theorem Items.isWhole_of_isSound : ∀ (depth : Nat) (l : Items),
    l.isSound depth = true → l.isWhole = true
  | _, .closed, _ => rfl
  | _, .broken, h => by simp [Items.isSound] at h
  | depth, .cons head tail, h => by
    obtain ⟨hh, ht⟩ := by simpa [Items.isSound] using h
    simp [Items.isWhole, Tree.isWhole_of_isSound depth head hh,
      Items.isWhole_of_isSound depth tail ht]

theorem Members.isWhole_of_isSound : ∀ (depth : Nat) (l : Members),
    l.isSound depth = true → l.isWhole = true
  | _, .closed, _ => rfl
  | _, .broken, h => by simp [Members.isSound] at h
  | depth, .cons key value tail, h => by
    obtain ⟨_, hv, ht⟩ := by simpa [Members.isSound] using h
    simp [Members.isWhole, Tree.isWhole_of_isSound depth value hv,
      Members.isWhole_of_isSound depth tail ht]

end

end Json

end PropertyGraph
