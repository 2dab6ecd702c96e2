/-!
# Ranges of code points

A class of characters is given as ascending ranges of code points, ends included.
-/

namespace Stencil.Text

def inRanges (ranges : List (Nat × Nat)) (n : Nat) : Bool :=
  ranges.any fun r => r.1 ≤ n && n ≤ r.2

end Stencil.Text
