/-! Powers of the two bases of numbers. -/

set_option autoImplicit false

namespace FrameHost.Decimal

def twoTo (k : Nat) : Nat := Nat.pow 2 k

def tenTo (k : Nat) : Nat := Nat.pow 10 k

end FrameHost.Decimal
