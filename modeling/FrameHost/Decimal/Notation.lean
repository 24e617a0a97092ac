import FrameHost.Decimal.Shortest

/-! How the shortest decimal of a number is laid out as text. -/

set_option autoImplicit false

namespace FrameHost.Decimal

/-- The choices of a layout: which exponents keep the positional form, and the sign of a
positive exponent. A whole number always ends in a point and a zero. -/
structure Layout where
  lowest : Option Int
  highest : Option Int
  exponentPlus : Bool

def Layout.positional : Layout := ⟨none, none, false⟩

/-- Positional from one ten-thousandth up to below ten to the sixteen. -/
def Layout.scientific : Layout := ⟨some (-4), some 15, false⟩

def Layout.json : Layout := ⟨some (-5), some 15, true⟩

def digitText (digits : List Nat) : List Char := digits.map fun d => Char.ofNat (d + 48)

def positionalText (d : Digits) : List Char :=
  if d.exponent < 0 then
    '0' :: '.' :: List.replicate (-d.exponent - 1).toNat '0' ++ digitText d.digits
  else
    let whole := d.exponent.toNat + 1
    let head := digitText (d.digits.take whole)
    let rest := digitText (d.digits.drop whole)
    head ++ List.replicate (whole - d.digits.length) '0' ++
      '.' :: (if rest.isEmpty then ['0'] else rest)

def scientificText (layout : Layout) (d : Digits) : List Char :=
  let first := digitText (d.digits.take 1)
  let rest := digitText (d.digits.drop 1)
  let mantissa := if rest.isEmpty then first else first ++ '.' :: rest
  let sign := if 0 ≤ d.exponent ∧ layout.exponentPlus then ['+'] else []
  mantissa ++ 'e' :: sign ++ (toString d.exponent).toList

def Layout.isPositional (layout : Layout) (exponent : Int) : Bool :=
  (layout.lowest.all fun low => low ≤ exponent) && (layout.highest.all fun high => exponent ≤ high)

def signText (negative : Bool) : List Char := if negative then ['-'] else []

def Layout.text (layout : Layout) : Number → String
  | .notANumber => "NaN"
  | .infinite negative => String.ofList (signText negative ++ "inf".toList)
  | .zero negative => String.ofList (signText negative ++ "0.0".toList)
  | .finite negative d =>
    let body := if layout.isPositional d.exponent then positionalText d else scientificText layout d
    String.ofList (signText negative ++ body)

def Layout.float (layout : Layout) (x : Float) : String := layout.text (.ofFloat x)

end FrameHost.Decimal
