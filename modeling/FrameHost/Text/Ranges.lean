/-! Sets of characters given by ranges of code points. -/

set_option autoImplicit false

namespace FrameHost.Text

def inRanges (ranges : List (Nat × Nat)) (c : Char) : Bool :=
  ranges.any fun range => range.1 ≤ c.toNat && c.toNat ≤ range.2

end FrameHost.Text
