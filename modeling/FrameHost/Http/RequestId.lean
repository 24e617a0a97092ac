/-! Names for requests that come without one: sixteen random bytes, of which six bits say how
they were made. -/

set_option autoImplicit false

namespace FrameHost.Http.RequestId

def header : String := "x-request-id"

def hexByte (b : UInt8) : List Char :=
  [Nat.digitChar (b.toNat / 16), Nat.digitChar (b.toNat % 16)]

/-- Set the bits that are not random. -/
def marked (bytes : List UInt8) : List UInt8 :=
  (bytes.modify 6 fun b => (b &&& 0x0F) ||| 0x40).modify 8 fun b => (b &&& 0x3F) ||| 0x80

def ofBytes (bytes : List UInt8) : String :=
  let groups := [(0, 4), (4, 2), (6, 2), (8, 2), (10, 6)].map fun (start, size) =>
    String.ofList ((((marked bytes).drop start).take size).flatMap hexByte)
  String.intercalate "-" groups

example : ofBytes (List.replicate 16 0xFF) = "ffffffff-ffff-4fff-bfff-ffffffffffff" := by cbv

end FrameHost.Http.RequestId
