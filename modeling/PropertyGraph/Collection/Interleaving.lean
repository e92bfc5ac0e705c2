/-!
# Interleavings

Two lists are interleaved by taking from the front of the one or of the other until both are used
up.  Each keeps its own order, and nothing is said about the order between the two.
-/

namespace PropertyGraph

/-- A list is made of two others, each in its own order. -/
inductive Interleaving {α : Type} : List α → List α → List α → Prop
  | nil : Interleaving [] [] []
  | left {a : α} {first second merged : List α} :
      Interleaving first second merged → Interleaving (a :: first) second (a :: merged)
  | right {b : α} {first second merged : List α} :
      Interleaving first second merged → Interleaving first (b :: second) (b :: merged)

namespace Interleaving

variable {α β : Type} {first second merged : List α}

theorem symm (h : Interleaving first second merged) : Interleaving second first merged := by
  induction h with
  | nil => exact .nil
  | left _ ih => exact .right ih
  | right _ ih => exact .left ih

theorem map (f : α → β) (h : Interleaving first second merged) :
    Interleaving (first.map f) (second.map f) (merged.map f) := by
  induction h with
  | nil => exact .nil
  | left _ ih => exact .left ih
  | right _ ih => exact .right ih

theorem mem_iff {a : α} (h : Interleaving first second merged) :
    a ∈ merged ↔ a ∈ first ∨ a ∈ second := by
  induction h with
  | nil => simp
  | left _ ih => simp [ih, or_assoc]
  | right _ ih => simp [ih, or_left_comm]

end Interleaving

end PropertyGraph
