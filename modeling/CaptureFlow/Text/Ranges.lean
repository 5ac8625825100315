/-!
# Ranges of characters

A class of characters is told by the closed ranges of its code points.
-/

namespace CaptureFlow

/-- Closed ranges of code points, each its first and its last one. -/
abbrev CodeRanges := List (Nat × Nat)

/-- Whether a character lies in one of the ranges. -/
def CodeRanges.hold (ranges : CodeRanges) (c : Char) : Bool :=
  ranges.any fun (low, high) => low ≤ c.toNat && c.toNat ≤ high

end CaptureFlow
