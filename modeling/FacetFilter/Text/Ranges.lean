/-! Sets of code points given as tables of closed ranges. -/

namespace FacetFilter.Text

/-- Whether a code point lies in one of the ranges. -/
def inRanges (ranges : Array (Nat × Nat)) (n : Nat) : Bool :=
  ranges.any fun (low, high) => low ≤ n && n ≤ high

end FacetFilter.Text
