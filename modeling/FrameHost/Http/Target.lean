import FrameHost.Text.Bytes

/-! Targets of requests: a path, an absolute address, an authority on its own, or a star. -/

set_option autoImplicit false

namespace FrameHost.Http

def byteOf (c : Char) : UInt8 := UInt8.ofNat c.toNat

/-- What of a target decides how it is answered: its path, which only an authority on its own
and a star do not have. -/
inductive Target where
  | path (path : Bytes)
  | pathless
  deriving DecidableEq, Repr

namespace Target

def isLetter (b : UInt8) : Bool := (0x41 ≤ b && b ≤ 0x5A) || (0x61 ≤ b && b ≤ 0x7A)

def isDigit (b : UInt8) : Bool := 0x30 ≤ b && b ≤ 0x39

def isPathByte (b : UInt8) : Bool :=
  b = 0x21 || (0x24 ≤ b && b ≤ 0x3B) || b = 0x3D || (0x40 ≤ b && b ≤ 0x5F)
    || (0x61 ≤ b && b ≤ 0x7D) || 0x7E ≤ b || b = byteOf '"'

def isQueryByte (b : UInt8) : Bool :=
  b = 0x21 || (0x24 ≤ b && b ≤ 0x3B) || b = 0x3D || 0x3F ≤ b

/-- The path of a text that goes from a path to the end, if all its bytes are in order. What
follows a number sign is cut off. -/
def pathOf? (text : Bytes) : Option Bytes :=
  let stops (b : UInt8) := b = byteOf '?' || b = byteOf '#'
  let path := text.takeWhile fun b => !stops b
  let query := match text.drop path.length with
    | b :: rest => if b = byteOf '?' then rest.takeWhile (· ≠ byteOf '#') else []
    | [] => []
  if path.all isPathByte && query.all isQueryByte then some path else none

def isPlainByte (b : UInt8) : Bool :=
  isLetter b || isDigit b || ("!$&'()*+,-.;=_~".toList.map byteOf).contains b

structure Seen where
  colons : Nat := 0
  opened : Bool := false
  closed : Bool := false
  percent : Bool := false
  endsInAt : Bool := false

/-- Colons and percent signs before an at sign or within brackets do not count. -/
def see (s : Seen) (b : UInt8) : Option Seen :=
  let s := { s with endsInAt := b = byteOf '@' }
  if b = byteOf ':' then if 8 ≤ s.colons then none else some { s with colons := s.colons + 1 }
  else if b = byteOf '[' then if s.percent || s.opened then none else some { s with opened := true }
  else if b = byteOf ']' then
    if !s.opened || s.closed then none
    else some { s with closed := true, colons := 0, percent := false }
  else if b = byteOf '@' then some { s with colons := 0, percent := false }
  else if b = byteOf '%' then some { s with percent := true }
  else if isPlainByte b then some s
  else none

def splitAuthority? (text : Bytes) : Option (Bytes × Bytes) :=
  let ends (b : UInt8) := b = byteOf '/' || b = byteOf '?' || b = byteOf '#'
  let authority := text.takeWhile fun b => !ends b
  match authority.foldlM see {} with
  | some s =>
    if s.opened ≠ s.closed || 1 < s.colons || s.endsInAt || s.percent then none
    else some (authority, text.drop authority.length)
  | none => none

def isSchemeByte (b : UInt8) : Bool :=
  isLetter b || isDigit b || b = byteOf '+' || b = byteOf '-' || b = byteOf '.'

def schemeLimit : Nat := 64

/-- The text after a scheme and two slashes: `none` if the scheme is too long, and the text as
it is if it has no scheme. -/
def afterScheme (text : Bytes) : Option (Bool × Bytes) :=
  let scheme := text.takeWhile isSchemeByte
  match text.drop scheme.length with
  | a :: b :: c :: rest =>
    if a = byteOf ':' ∧ b = byteOf '/' ∧ c = byteOf '/' then
      if schemeLimit < scheme.length then none else some (true, rest)
    else some (false, text)
  | _ => some (false, text)

def longest : Nat := 65534

def parse? (text : String) : Option Target :=
  let bytes := Text.bytesOf text
  if longest < bytes.length then none
  else
    match bytes with
    | [] => none
    | first :: rest =>
      if first = byteOf '/' then (pathOf? bytes).map .path
      else if first = byteOf '*' && rest.isEmpty then some .pathless
      else do
        let (schemed, text) ← afterScheme bytes
        let (authority, text) ← splitAuthority? text
        if schemed then
          if authority.isEmpty then none
          else
            let path ← pathOf? text
            return .path (if path.isEmpty then [byteOf '/'] else path)
        -- Without a scheme an authority has to stand on its own.
        else if text.isEmpty then some .pathless
        else none

end Target

end FrameHost.Http
