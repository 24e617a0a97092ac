import FrameHost.Decimal.Reading
import FrameHost.Document

/-! Numbers of messages as values of documents. -/

set_option autoImplicit false

namespace FrameHost.Document

/-- A number without point and exponent is whole as long as a word of 64 bits holds it, with
or without a sign. All others, and zero with a minus, are floating point numbers. -/
def ofNumeral? (text : String) : Option Document :=
  let chars := text.toList
  (Decimal.Numeral.parse? chars).map fun n =>
    let magnitude : Int := Decimal.naturalOf n.whole
    let whole := (chars.drop (if n.negative then 1 else 0)).all Decimal.isDigit
    if whole && !n.negative && magnitude < UInt64.size then .integer magnitude
    else if whole && n.negative && 0 < magnitude && magnitude ≤ 0x8000000000000000 then .integer (-magnitude)
    else .number n.toFloat

end FrameHost.Document
