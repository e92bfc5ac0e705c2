import PropertyGraph.Text.Runs

/-!
# Characters that are not shown unless supported

The characters of the Unicode property `Default_Ignorable_Code_Point`: joiners, fillers, selectors
of variants and the like, which are shown by nothing at all.

* `isIgnorable` — whether a character is one of them.
-/

namespace PropertyGraph

/-- The first and last code points of the runs of ignorable characters. -/
def ignorableRuns : List (Nat × Nat) :=
  [(0x00AD, 0x00AD), (0x034F, 0x034F), (0x061C, 0x061C), (0x115F, 0x1160), (0x17B4, 0x17B5),
    (0x180B, 0x180F), (0x200B, 0x200F), (0x202A, 0x202E), (0x2060, 0x206F), (0x3164, 0x3164),
    (0xFE00, 0xFE0F), (0xFEFF, 0xFEFF), (0xFFA0, 0xFFA0), (0xFFF0, 0xFFF8), (0x1BCA0, 0x1BCA3),
    (0x1D173, 0x1D17A), (0xE0000, 0xE0FFF)]

theorem ignorableRuns_ascend : runsAscend ignorableRuns = true := by decide +kernel

/-- There are as many ignorable characters as the property counts. -/
theorem ignorableRuns_size : runsSize ignorableRuns = 4174 := by decide +kernel

/-- Whether a character is not shown unless supported. -/
def isIgnorable (c : Char) : Bool := inRuns ignorableRuns c

end PropertyGraph
