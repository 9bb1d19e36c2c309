/-!
# Sets of code points

A set of code points is given by its ascending, disjoint, closed ranges.
-/

namespace Stencil.Text

/-- Whether `n` lies in one of the ranges. They ascend, so the search ends at the first range that
begins after `n`. -/
def inRanges : List (Nat × Nat) → Nat → Bool
  | [], _ => false
  | (first, last) :: ranges, n =>
    if n < first then false
    else if n ≤ last then true
    else inRanges ranges n

end Stencil.Text
