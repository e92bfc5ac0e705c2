/-!
# Classes of characters as runs of code points

A class of characters is given by its runs: the first and the last code point of each, in
ascending order.  The classes of this library are properties of the Unicode standard, and where
they differ between versions of it they are those of version 17.0.

* `inRuns` — whether a character is in one of the runs;
* `runsAscend`, `runsSize` — what a table of runs is checked by: its order and its size.
-/

namespace PropertyGraph

/-- Whether a character is in one of the runs. -/
def inRuns (runs : List (Nat × Nat)) (c : Char) : Bool :=
  runs.any fun (low, high) => low ≤ c.toNat ∧ c.toNat ≤ high

/-- Whether the runs ascend, with at least one code point between any two. -/
def runsAscend : List (Nat × Nat) → Bool
  | [] => true
  | [(low, high)] => low ≤ high
  | (low, high) :: next :: rest => low ≤ high && high + 1 < next.1 && runsAscend (next :: rest)

/-- The number of code points in the runs. -/
def runsSize (runs : List (Nat × Nat)) : Nat :=
  runs.foldl (fun n (low, high) => n + (high + 1 - low)) 0

end PropertyGraph
