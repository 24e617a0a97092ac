import FrameHost.Decimal.Power

/-! The shortest decimal that names a binary floating point number.

A finite number is `m * 2 ^ q` for an integer significand. The decimals that read back to it
fill an interval around it, closed when the significand is even. Of the decimals with the
fewest digits in that interval the nearest one is taken. All arithmetic is on naturals. -/

set_option autoImplicit false

namespace FrameHost.Decimal

/-- A positive decimal: its digits without leading or trailing zeros, most significant
first, and the power of ten of the first digit. -/
structure Digits where
  digits : List Nat
  exponent : Int
  deriving DecidableEq, Repr, Inhabited

/-- A positive rational number over a common denominator, with the ends of the interval that
rounds to it and whether those ends belong to it. -/
structure Rounding where
  low : Nat
  value : Nat
  high : Nat
  denominator : Nat
  closed : Bool

def Rounding.ofFields (exponentField fraction : Nat) : Rounding :=
  let significand := if exponentField = 0 then fraction else fraction + twoTo 52
  let power := (if exponentField = 0 then 1 else exponentField)
  -- Below a power of two the next number is only half as far away.
  let below := if fraction = 0 ∧ 1 < exponentField then 1 else 2
  let scale := if 1077 ≤ power then twoTo (power - 1077) else 1
  let denominator := if 1077 ≤ power then 1 else twoTo (1077 - power)
  { low := (4 * significand - below) * scale
    value := 4 * significand * scale
    high := (4 * significand + 2) * scale
    denominator
    closed := significand % 2 = 0 }

def width (n : Nat) : Nat := (Nat.toDigits 10 n).length

def leadingExponent (numerator denominator : Nat) : Int :=
  if denominator ≤ numerator then (width (numerator / denominator) : Int) - 1
  else
    let guess := width (denominator / numerator)
    if denominator ≤ numerator * tenTo (guess - 1) then -(guess - 1 : Nat)
    else -(guess : Int)

def trimmedDigits (n : Nat) : List Nat :=
  let digits := (Nat.toDigits 10 n).map fun c => c.toNat - '0'.toNat
  (digits.reverse.dropWhile (· = 0)).reverse

def Rounding.contains (r : Rounding) (scaled step : Nat) : Bool :=
  if r.closed then r.low * step ≤ scaled ∧ scaled ≤ r.high * step
  else r.low * step < scaled ∧ scaled < r.high * step

def Rounding.candidate (r : Rounding) (exponent : Int) (count : Nat) : Option Digits :=
  let place := exponent - (count - 1 : Nat)
  -- the grid point `n` stands for `n * unit / step` in units of one over the denominator
  let unit := if 0 ≤ place then r.denominator * tenTo place.toNat else r.denominator
  let step := if 0 ≤ place then 1 else tenTo (-place).toNat
  let lower := r.value * step / unit
  let upper := lower + 1
  let lowerFits := r.contains (lower * unit) step
  let upperFits := r.contains (upper * unit) step
  let nearLower := r.value * step - lower * unit
  let nearUpper := upper * unit - r.value * step
  let pick :=
    if lowerFits && upperFits then
      if nearLower < nearUpper then some lower
      else if nearUpper < nearLower then some upper
      else if lower % 2 = 0 then some lower else some upper
    else if lowerFits then some lower
    else if upperFits then some upper
    else none
  pick.map fun n =>
    { digits := trimmedDigits n
      -- Rounding up may have made a digit more.
      exponent := if width n ≤ count then exponent else exponent + 1 }

/-- Seventeen digits always suffice for a double. -/
def Rounding.shortest (r : Rounding) : Digits :=
  let exponent := leadingExponent r.value r.denominator
  ((List.range 17).findSome? fun count => r.candidate exponent (count + 1)).getD ⟨[], 0⟩

inductive Number where
  | notANumber
  | infinite (negative : Bool)
  | zero (negative : Bool)
  | finite (negative : Bool) (digits : Digits)
  deriving DecidableEq, Repr

def Number.ofFloat (x : Float) : Number :=
  let bits := x.toBits.toNat
  let negative := bits / twoTo 63 = 1
  let exponentField := bits / twoTo 52 % twoTo 11
  let fraction := bits % twoTo 52
  if exponentField = 2047 then
    if fraction = 0 then .infinite negative else .notANumber
  else if exponentField = 0 ∧ fraction = 0 then .zero negative
  else .finite negative (Rounding.ofFields exponentField fraction).shortest

end FrameHost.Decimal
