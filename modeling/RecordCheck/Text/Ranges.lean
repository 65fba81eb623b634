/-!
# Sets of code points given by ranges

A property of characters is kept as a list of ranges of code points, both ends included.
-/
set_option autoImplicit false

namespace RecordCheck.Text

/-- Whether a code point lies in one of the ranges. -/
def inRanges (ranges : List (Nat × Nat)) (code : Nat) : Bool :=
  ranges.any fun range => range.1 ≤ code && code ≤ range.2

end RecordCheck.Text
