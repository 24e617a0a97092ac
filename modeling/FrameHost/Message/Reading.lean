import FrameHost.Document.Numeral
import FrameHost.Text.Digit

/-! Documents from JSON messages.

Brackets and braces may stand inside one another up to a fixed depth. Of several members of an object with one
name the last one counts. -/

set_option autoImplicit false

namespace FrameHost.Message

/-- What is read at the front of a text, and what is left of it. -/
abbrev Scan (α : Type) := List Char → Option (α × List Char)

def isBlank (c : Char) : Bool := c == ' ' || c == '\t' || c == '\n' || c == '\r'

def skipBlanks (text : List Char) : List Char := text.dropWhile isBlank

def codeUnit : Scan Nat
  | a :: b :: c :: d :: rest => do
    let digits ← [a, b, c, d].mapM (Text.digit? 16)
    return (digits.foldl (fun n digit => 16 * n + digit) 0, rest)
  | _ => none

/-- A character by its number, which takes two halves where it has more than sixteen bits. -/
def numbered : Scan Char := fun text => do
  let (n, rest) ← codeUnit text
  if 0xD800 ≤ n ∧ n < 0xDC00 then
    match rest with
    | '\\' :: 'u' :: rest => do
      let (low, rest) ← codeUnit rest
      if 0xDC00 ≤ low ∧ low < 0xE000 then
        some (Char.ofNat (0x10000 + 0x400 * (n - 0xD800) + (low - 0xDC00)), rest)
      else none
    | _ => none
  else if 0xDC00 ≤ n ∧ n < 0xE000 then none
  else some (Char.ofNat n, rest)

def escaped : Scan Char
  | '"' :: rest => some ('"', rest)
  | '\\' :: rest => some ('\\', rest)
  | '/' :: rest => some ('/', rest)
  | 'b' :: rest => some ('\x08', rest)
  | 'f' :: rest => some ('\x0c', rest)
  | 'n' :: rest => some ('\n', rest)
  | 'r' :: rest => some ('\r', rest)
  | 't' :: rest => some ('\t', rest)
  | 'u' :: rest => numbered rest
  | _ => none

/-- One character of a text between quotes. Control characters may only stand there escaped. -/
def literalChar : Scan Char
  | '\\' :: rest => escaped rest
  | c :: rest => if c.toNat < 32 then none else some (c, rest)
  | [] => none

def literalRest : Nat → Scan (List Char)
  | 0, _ => none
  | fuel + 1, text =>
    match text with
    | '"' :: rest => some ([], rest)
    | _ => do
      let (c, rest) ← literalChar text
      let (more, rest) ← literalRest fuel rest
      return (c :: more, rest)

def literal : Scan String := fun text => do
  let (chars, rest) ← literalRest (text.length + 1) text
  return (String.ofList chars, rest)

def isNumeralChar (c : Char) : Bool := Decimal.isDigit c || c == '-' || c == '+' || c == '.' || c == 'e' || c == 'E'

/-- Whether a number has no superfluous sign or zero in front, and digits after its point. -/
def isNumeral (row : List Char) : Bool :=
  let body := match row with
    | '-' :: rest => rest
    | _ => row
  let whole := body.takeWhile Decimal.isDigit
  let fraction := match body.dropWhile Decimal.isDigit with
    | '.' :: rest => (rest.takeWhile Decimal.isDigit).length
    | _ => 1
  (whole == ['0'] || (whole != [] && whole.head? != some '0')) && fraction != 0

def numeral : Scan Document := fun text =>
  let row := text.takeWhile isNumeralChar
  if isNumeral row then
    match Document.ofNumeral? (String.ofList row) with
    -- A number past the largest one is refused.
    | some (.number x) => if x.isFinite then some (.number x, text.dropWhile isNumeralChar) else none
    | some d => some (d, text.dropWhile isNumeralChar)
    | none => none
  else none

def scalar : Scan Document
  | '"' :: rest => (literal rest).map fun (s, rest) => (.text s, rest)
  | 'n' :: 'u' :: 'l' :: 'l' :: rest => some (.null, rest)
  | 't' :: 'r' :: 'u' :: 'e' :: rest => some (.boolean true, rest)
  | 'f' :: 'a' :: 'l' :: 's' :: 'e' :: rest => some (.boolean false, rest)
  | text => numeral text

def parts {α : Type} (part : Scan α) (close : Char) : Nat → Scan (List α)
  | 0, _ => none
  | fuel + 1, text => do
    let (first, rest) ← part (skipBlanks text)
    match skipBlanks rest with
    | c :: rest =>
      if c = ',' then do
        let (more, rest) ← parts part close fuel rest
        return (first :: more, rest)
      else if c = close then some ([first], rest)
      else none
    | [] => none

def enclosed {α : Type} (part : Scan α) (close : Char) : Scan (List α) := fun text =>
  match skipBlanks text with
  | c :: rest => if c = close then some ([], rest) else parts part close text.length text
  | [] => none

/-- A member of an object: its name, a colon and its value. -/
def member (value : Scan Document) : Scan (String × Document)
  | '"' :: text => do
    let (name, rest) ← literal text
    match skipBlanks rest with
    | ':' :: rest => do
      let (d, rest) ← value (skipBlanks rest)
      return ((name, d), rest)
    | _ => none
  | _ => none

/-- A value inside which brackets and braces may be opened so many levels deep. -/
def value : Nat → Scan Document
  | 0, text =>
    match text with
    | '[' :: _ | '\x7b' :: _ => none
    | _ => scalar text
  | depth + 1, text =>
    match text with
    | '[' :: rest => (enclosed (value depth) ']' rest).map fun (items, rest) => (.list items, rest)
    | '\x7b' :: rest =>
      (enclosed (member (value depth)) '\x7d' rest).map fun (members, rest) => (.ofMembers members, rest)
    | _ => scalar text

def depthLimit : Nat := 127

def read? (text : String) : Option Document := do
  let (d, rest) ← value depthLimit (skipBlanks text.toList)
  if skipBlanks rest = [] then some d else none

end FrameHost.Message
