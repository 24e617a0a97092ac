import FrameHost.Decimal.Notation

/-! Lengths of time, counted in whole milliseconds. -/

set_option autoImplicit false

namespace FrameHost

structure Duration where
  millis : Nat
  deriving DecidableEq, Repr, Inhabited

namespace Duration

def ofSeconds (seconds : Nat) : Duration := ⟨1000 * seconds⟩

def seconds (d : Duration) : Nat := d.millis / 1000

def restMillis (d : Duration) : Nat := d.millis % 1000

/-- The length in seconds as a floating point number: whole seconds and the rest are rounded
on their own and then added. -/
def toFloat (d : Duration) : Float :=
  Float.ofNat d.seconds + Float.ofNat (d.restMillis * 1000000) / 1000000000.0

def thousandths (n : Nat) : List Char :=
  let digits := (toString (1000 + n)).toList.drop 1
  (digits.reverse.dropWhile (· = '0')).reverse

/-- In the largest unit of which there is at least one. -/
def shown (d : Duration) : String :=
  if 1000 ≤ d.millis then
    let rest := thousandths d.restMillis
    let fraction := if rest.isEmpty then [] else '.' :: rest
    String.ofList ((toString d.seconds).toList ++ fraction ++ ['s'])
  else if 0 < d.millis then toString d.millis ++ "ms"
  else "0ns"

@[simp] theorem millis_ofSeconds (n : Nat) : (ofSeconds n).millis = 1000 * n := rfl

end Duration

end FrameHost
