import FrameHost.Decimal.Power
import FrameHost.Text.Ranges

/-! Reading decimals: which texts are numbers, and the nearest floating point number. -/

set_option autoImplicit false

namespace FrameHost.Decimal

def isDigit (c : Char) : Bool := '0' ≤ c && c ≤ '9'

def digitValue (c : Char) : Nat := c.toNat - 48

def naturalOf (digits : List Char) : Nat := digits.foldl (fun n c => 10 * n + digitValue c) 0

/-- The bits of the floating point number nearest to a positive fraction; of two as near, the
one with the even significand. A fraction past the largest number gives infinity. -/
def nearestBits (numerator denominator : Nat) : Nat :=
  -- The power of two that leaves a quotient of 53 bits is this one or the next below.
  let guess : Int := (Nat.log2 numerator : Int) - Nat.log2 denominator - 52
  let scaled (q : Int) : Nat × Nat :=
    (numerator * twoTo (-q).toNat, denominator * twoTo q.toNat)
  let fits := (scaled guess).2 * twoTo 52 ≤ (scaled guess).1
  let power := max (if fits then guess else guess - 1) (-1074)
  let (above, below) := scaled power
  let floor := above / below
  let twice := 2 * (above % below)
  let rounded :=
    if below < twice ∨ (twice = below ∧ floor % 2 = 1) then floor + 1 else floor
  -- A significand that has grown by rounding carries over into the exponent.
  let bits := (power + 1074).toNat * twoTo 52 + rounded
  if bits < 0x7FF0000000000000 then bits else 0x7FF0000000000000

def nearestFloat (negative : Bool) (digits : List Char) (power : Int) : Float :=
  let significant := digits.dropWhile (· = '0')
  let magnitude : Int := significant.length + power
  let bits :=
    if significant.isEmpty ∨ magnitude < -400 then 0
    else if 400 < magnitude then 0x7FF0000000000000
    else nearestBits (naturalOf significant * tenTo power.toNat) (tenTo (-power).toNat)
  Float.ofBits (UInt64.ofNat (if negative then bits + twoTo 63 else bits))

/-- The parts of a decimal: its sign, the digits on both sides of the point, and the power of
ten by which they are multiplied. -/
structure Numeral where
  negative : Bool
  whole : List Char
  fraction : List Char
  power : Int
  deriving Repr, Inhabited

def Numeral.toFloat (n : Numeral) : Float :=
  nearestFloat n.negative (n.whole ++ n.fraction) (n.power - n.fraction.length)

def splitSign : List Char → Bool × List Char
  | '-' :: rest => (true, rest)
  | '+' :: rest => (false, rest)
  | text => (false, text)

def exponent? (text : List Char) : Option Int :=
  match text with
  | [] => some 0
  | mark :: rest =>
    let (negative, digits) := splitSign rest
    if (mark = 'e' ∨ mark = 'E') ∧ digits ≠ [] ∧ digits.all isDigit then
      let n : Int := naturalOf digits
      some (if negative then -n else n)
    else none

def Numeral.parse? (text : List Char) : Option Numeral :=
  let (negative, body) := splitSign text
  let whole := body.takeWhile isDigit
  let rest := body.dropWhile isDigit
  let (fraction, rest) :=
    match rest with
    | '.' :: tail => (tail.takeWhile isDigit, tail.dropWhile isDigit)
    | _ => ([], rest)
  if whole.isEmpty && fraction.isEmpty then none
  else (exponent? rest).map fun power => { negative, whole, fraction, power }

def specialWords : List (List Char) := ["inf".toList, "infinity".toList, "nan".toList]

def isFloatText (text : List Char) : Bool :=
  (Numeral.parse? text).isSome
    || specialWords.contains ((splitSign text).2.map Char.toLower)

def natural? (text : List Char) : Option Nat :=
  let digits := match text with
    | '+' :: rest => rest
    | _ => text
  if digits ≠ [] ∧ digits.all isDigit then some (naturalOf digits) else none

end FrameHost.Decimal
