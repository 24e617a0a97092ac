import FrameHost.Decimal.Reading
import FrameHost.Document
import FrameHost.Text.Digit
import FrameHost.Toml.Cursor

/-! Numbers, dates and times in TOML. -/

set_option autoImplicit false

namespace FrameHost.Toml

/-- Digits of a class with single underscores between them, without these. -/
def digitRow (p : Char → Bool) : Nat → Scan (List Char)
  | 0, _ => none
  | fuel + 1, c => do
    let (a, c) ← c.next?
    if !p a then none
    else
      match c.rest with
      | '_' :: _ => do
        let (_, c) ← c.next?
        let (more, c) ← digitRow p fuel c
        return (a :: more, c)
      | b :: _ =>
        if p b then do
          let (more, c) ← digitRow p fuel c
          return (a :: more, c)
        else some ([a], c)
      | [] => some ([a], c)

def digits (p : Char → Bool) : Scan (List Char) := fun c => digitRow p (c.rest.length + 1) c

def wholeDigits : Scan (List Char) := fun c =>
  match c.rest with
  | '0' :: _ => (c.skip '0').map fun (_, c) => (['0'], c)
  | _ => digits Decimal.isDigit c

def sign (c : Cursor) : Bool × Cursor :=
  match c.rest with
  | '-' :: rest => (true, { rest, offset := c.offset + 1 })
  | '+' :: rest => (false, { rest, offset := c.offset + 1 })
  | _ => (false, c)

def exponent : Scan Int := fun c => do
  let (mark, c) ← c.next?
  if mark = 'e' ∨ mark = 'E' then
    let (negative, c) := sign c
    let (row, c) ← digits Decimal.isDigit c
    let n : Int := Decimal.naturalOf row
    return (if negative then -n else n, c)
  else none

/-- A decimal with a point, an exponent or both. One that is past the largest number is
refused. -/
def decimal : Scan Document := fun c => do
  let (negative, c) := sign c
  let (whole, c) ← wholeDigits c
  let (fraction, c) ← match c.rest with
    | '.' :: _ => do
      let (_, c) ← c.skip '.'
      digits Decimal.isDigit c
    | _ => if (exponent c).isSome then some ([], c) else none
  let (power, c) := match exponent c with
    | some result => result
    | none => (0, c)
  let x := Decimal.Numeral.toFloat { negative, whole, fraction, power }
  -- Past the least number nothing is refused.
  if x == 1.0 / 0.0 then none else some (.number x, c)

def specialNumber : Scan Document := fun c =>
  let (negative, c) := sign c
  let infinity : Float := if negative then -1.0 / 0.0 else 1.0 / 0.0
  if c.startsWith "inf".toList then
    (c.skipText "inf".toList).map fun (_, c) => (.number infinity, c)
  else (c.skipText "nan".toList).map fun (_, c) => (.number (0.0 / 0.0), c)

def fits (n : Int) : Bool := -0x8000000000000000 ≤ n && n < 0x8000000000000000

def based (mark : Char) (base : Nat) : Scan Document := fun c => do
  let (_, c) ← c.skipText ['0', mark]
  let (row, c) ← digits (fun a => (Text.digit? base a).isSome) c
  let n : Int := ((row.filterMap (Text.digit? base)).foldl (fun n d => base * n + d) 0 : Nat)
  if fits n then some (.integer n, c) else none

def wholeNumber : Scan Document := fun c =>
  if c.startsWith ['0', 'x'] then based 'x' 16 c
  else if c.startsWith ['0', 'o'] then based 'o' 8 c
  else if c.startsWith ['0', 'b'] then based 'b' 2 c
  else do
    let (negative, c) := sign c
    let (row, c) ← wholeDigits c
    let m : Int := Decimal.naturalOf row
    let n := if negative then -m else m
    if fits n then some (.integer n, c) else none

def fixedDigits (width low high : Nat) : Scan Nat := fun c =>
  let row := c.rest.take width
  let n := Decimal.naturalOf row
  if row.length = width ∧ row.all Decimal.isDigit ∧ low ≤ n ∧ n ≤ high then
    some (n, { rest := c.rest.drop width, offset := c.offset + width })
  else none

def isLeapYear (year : Nat) : Bool := year % 4 = 0 && (year % 100 != 0 || year % 400 = 0)

def daysInMonth (year month : Nat) : Nat :=
  if month = 2 then if isLeapYear year then 29 else 28
  else if month ∈ [4, 6, 9, 11] then 30
  else 31

def date : Scan Unit := fun c => do
  let (year, c) ← fixedDigits 4 0 9999 c
  let (_, c) ← c.skip '-'
  let (month, c) ← fixedDigits 2 1 12 c
  let (_, c) ← c.skip '-'
  let (_, c) ← fixedDigits 2 1 (daysInMonth year month) c
  return ((), c)

def timeOfDay : Scan Unit := fun c => do
  let (_, c) ← fixedDigits 2 0 23 c
  let (_, c) ← c.skip ':'
  let (_, c) ← fixedDigits 2 0 59 c
  let (_, c) ← c.skip ':'
  let (_, c) ← fixedDigits 2 0 60 c
  match c.rest with
  | '.' :: a :: _ =>
    if Decimal.isDigit a then
      let (_, c) ← c.skip '.'
      return ((), (c.takeWhile Decimal.isDigit).2)
    else none
  | _ => return ((), c)

def zone : Scan Unit := fun c => do
  let (a, c) ← c.next?
  if a = 'Z' ∨ a = 'z' then return ((), c)
  else if a = '+' ∨ a = '-' then
    let (_, c) ← fixedDigits 2 0 23 c
    let (_, c) ← c.skip ':'
    let (_, c) ← fixedDigits 2 0 59 c
    return ((), c)
  else none

def timeAfterDate : Scan Unit := fun c => do
  let (a, c) ← c.next?
  if a = 'T' ∨ a = 't' ∨ a = ' ' then
    let (_, c) ← timeOfDay c
    match zone c with
    | some (_, c) => return ((), c)
    | none => return ((), c)
  else none

def moment : Scan Document := fun c =>
  match date c with
  | some (_, c) =>
    match timeAfterDate c with
    | some (_, c) => some (.moment, c)
    | none => some (.moment, c)
  | none => (timeOfDay c).map fun (_, c) => (.moment, c)

def number : Scan Document := fun c =>
  (moment c).or ((decimal c).or ((specialNumber c).or (wholeNumber c)))

end FrameHost.Toml
