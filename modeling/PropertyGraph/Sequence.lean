import PropertyGraph.Error

/-!
# Sequences and how much of them is taken

A sequence gives its items one after the other, and it may have no end.  What is done with a
sequence is a walk: it asks for the next item, goes on as the item says, and at some point it is
done.  A walk knows the items that it was given and nothing else.  How many items it took, and
whether it met the end, is counted by the one who gives them.

Counting trusts a size hint that leaves no choice.  Counts and hints are numbers of 64 bits; what
comes after the greatest of them is zero, or there is no answer at all, as the program was built.
The length of a list is such a number too; memory for its items is taken to be there.
Searching stops at the first hit, and the search for a single item stops at the second.  A question
that would never be answered on an endless sequence has no answer here.

* `Walk`, `Walk.along` — walks, and what comes of them along a sequence;
* `along_ask_of_some`, `along_ask_of_none` — what one question for an item does;
* `SizeHint.certain?` — the number that a hint leaves no choice about;
* `Overflow.next` — the next count, where there is one;
* `Sequence.cycle` — the endless repetition of a list;
* `count`, `toList?`, `search`, `contains`, `single` — the questions, each with the number of items
  taken;
* `pick` — the item that a drawn number points to.
-/

namespace PropertyGraph

/-- A sequence of items. -/
inductive Sequence (α : Type) where
  | finite (items : List α)
  | endless (item : Nat → α)

/-- How far a sequence was walked: the number of items that were taken, and whether its end was
met. -/
structure Progress where
  taken : Nat := 0
  ended : Bool := false
  deriving DecidableEq

/-- An answer about a sequence, and how far the sequence was walked for it. -/
structure Taken (β : Type) extends Progress where
  answer : β
  deriving DecidableEq

/-- The answer of a walk that was not broken off. -/
def Taken.settled? {β : Type} (t : Taken (Option β)) : Option (Taken β) :=
  t.answer.map fun b => { t with answer := b }

/-- What is known beforehand of the number of items: at least `lower`, and at most `upper` if that
is given. -/
structure SizeHint where
  lower : UInt64
  upper : Option UInt64
  deriving DecidableEq

/-- The number of items that a hint leaves no choice about. -/
def SizeHint.certain? (h : SizeHint) : Option UInt64 :=
  if h.upper = some h.lower then some h.lower else none

/-- What becomes of a count behind the greatest number: it starts again from zero, or it breaks off.
-/
inductive Overflow where
  | wraps
  | breaksOff
  deriving DecidableEq

/-- The count after one more item. -/
def Overflow.next (overflow : Overflow) (n : UInt64) : Option UInt64 :=
  match overflow with
  | .wraps => some (n + 1)
  | .breaksOff => if n.toNat + 1 < UInt64.size then some (n + 1) else none

namespace Sequence

variable {α : Type}

/-- The item at a position, if the sequence goes so far. -/
def get? : Sequence α → Nat → Option α
  | .finite items, i => items[i]?
  | .endless item, i => some (item i)

/-- The endless repetition of a list; of the empty list there is none. -/
def cycle (items : List α) : Sequence α :=
  match items with
  | [] => .finite []
  | first :: rest =>
    .endless fun i => (first :: rest).getD (i % (rest.length + 1)) first

/-- How often to ask for an item in order to meet the end, where there is one. -/
def questions : Sequence α → Nat
  | .finite items => items.length + 1
  | .endless _ => 0

end Sequence

/-- A walk along a sequence of items of type `α` is done with an answer, or it asks for the next
item and goes on with what it is given, which is nothing at the end. -/
inductive Walk (α β : Type) where
  | done (answer : β)
  | ask (goOn : Option α → Walk α β)

namespace Walk

variable {α β : Type}

/-- What comes of a walk along a sequence from some progress on.  An item is taken when it is asked
for and there. -/
def along (s : Sequence α) : Walk α β → Progress → Taken β
  | done answer, p => { p with answer }
  | ask goOn, p =>
    match s.get? p.taken with
    | some a => along s (goOn (some a)) { p with taken := p.taken + 1 }
    | none => along s (goOn none) { p with ended := true }

@[simp] theorem along_done (s : Sequence α) (b : β) (p : Progress) :
    (done b : Walk α β).along s p = ⟨p, b⟩ := rfl

theorem along_ask_of_some {s : Sequence α} {p : Progress} {a : α} (h : s.get? p.taken = some a)
    (goOn : Option α → Walk α β) :
    (ask goOn).along s p = (goOn (some a)).along s { p with taken := p.taken + 1 } := by
  rw [along, h]

theorem along_ask_of_none {s : Sequence α} {p : Progress} (h : s.get? p.taken = none)
    (goOn : Option α → Walk α β) :
    (ask goOn).along s p = (goOn none).along s { p with ended := true } := by
  rw [along, h]

/-- Updates a value with all items, as long as the value can be updated.  The walk is broken off
after `bound` questions. -/
def fold (update : β → α → Option β) : Nat → β → Walk α (Option β)
  | 0, _ => done none
  | bound + 1, b => ask fun
    | none => done (some b)
    | some a =>
      match update b a with
      | some b => fold update bound b
      | none => done none

/-- Adds an item at the end of a list, whose length has to be a number of 64 bits. -/
def addLast (l : List α) (a : α) : Option (List α) :=
  if l.length + 1 < UInt64.size then some (l ++ [a]) else none

/-- Collects all items. -/
def toList (bound : Nat) : Walk α (Option (List α)) := fold addLast bound []

/-- Counts the items.  A hint that leaves no choice is believed; otherwise all items are taken. -/
def count (overflow : Overflow) (hint : SizeHint) (bound : Nat) : Walk α (Option UInt64) :=
  match hint.certain? with
  | some n => done (some n)
  | none => fold (fun n _ => overflow.next n) bound 0

/-- Looks for an item that passes the test.  The walk is broken off after `bound` questions. -/
def search (test : α → Bool) : Nat → Walk α (Option Bool)
  | 0 => done none
  | bound + 1 => ask fun
    | none => done (some false)
    | some a => if test a then done (some true) else search test bound

/-- Takes the only item, if there is one; several items are an error. -/
def single : Walk α (Except Error (Option α)) :=
  ask fun
  | none => done (.ok none)
  | some a => ask fun
    | none => done (.ok (some a))
    | some _ => done (.error .severalItems)

end Walk

namespace Sequence

variable {α β : Type}

/-- What comes of a walk along the sequence. -/
def walk (s : Sequence α) (w : Walk α β) : Taken β := w.along s {}

/-- All items, which an endless sequence does not have, nor one that is too long for a list. -/
def toList? (s : Sequence α) : Option (Taken (List α)) := (s.walk (.toList s.questions)).settled?

/-- The number of items. -/
def count (overflow : Overflow) (hint : SizeHint) (s : Sequence α) : Option (Taken UInt64) :=
  (s.walk (.count overflow hint s.questions)).settled?

/-- Whether an item passes the test.  There is no answer if `bound` questions for an item do not
settle it. -/
def search (test : α → Bool) (bound : Nat) (s : Sequence α) : Option (Taken Bool) :=
  (s.walk (.search test bound)).settled?

/-- Whether an item equals the target. -/
def contains [BEq α] (target : α) (bound : Nat) (s : Sequence α) : Option (Taken Bool) :=
  s.search (· == target) bound

/-- The only item, if there is one; several items are an error. -/
def single (s : Sequence α) : Taken (Except Error (Option α)) := s.walk .single

end Sequence

/-- The item of a list that a drawn number points to, counted round. -/
def pick {α : Type} (draw : Nat) (items : List α) : Except Error α :=
  match items[draw % items.length]? with
  | some a => .ok a
  | none => .error .nothingToPick

/-- The items that some drawn number points to. -/
def pickable {α : Type} (items : List α) : Except Error (List α) :=
  if items.isEmpty then .error .nothingToPick
  else (List.range items.length).mapM fun draw => pick draw items

end PropertyGraph
