/-! Reading a text from front to back, with the byte offset of what is left. -/

set_option autoImplicit false

namespace FrameHost.Toml

def byteSize : List Char → Nat
  | [] => 0
  | c :: rest => c.utf8Size + byteSize rest

structure Cursor where
  rest : List Char
  offset : Nat := 0
  deriving Inhabited

/-- What is read at a place, and the place after it. -/
abbrev Scan (α : Type) := Cursor → Option (α × Cursor)

namespace Cursor

def peek? (c : Cursor) : Option Char := c.rest.head?

def next? : Scan Char := fun c =>
  match c.rest with
  | [] => none
  | a :: rest => some (a, { rest, offset := c.offset + a.utf8Size })

def skip (a : Char) : Scan Unit := fun c =>
  match c.rest with
  | b :: rest => if a = b then some ((), { rest, offset := c.offset + b.utf8Size }) else none
  | [] => none

def skipText : List Char → Scan Unit
  | [], c => some ((), c)
  | a :: more, c => (skip a c).bind fun (_, c) => skipText more c

def takeWhile (p : Char → Bool) (c : Cursor) : List Char × Cursor :=
  let row := c.rest.takeWhile p
  (row, { rest := c.rest.dropWhile p, offset := c.offset + byteSize row })

def startsWith (text : List Char) (c : Cursor) : Bool := text.isPrefixOf c.rest

def isBlank (a : Char) : Bool := a == ' ' || a == '\t'

def skipBlanks (c : Cursor) : Cursor := (c.takeWhile isBlank).2

def isCommentChar (a : Char) : Bool := a == '\t' || (' ' ≤ a && a != '\x7f')

def lineBreak : Scan Unit := fun c =>
  match c.rest with
  | '\n' :: _ => skip '\n' c
  | '\r' :: '\n' :: _ => skipText ['\r', '\n'] c
  | _ => none

def skipComment (c : Cursor) : Cursor :=
  match c.rest with
  | '#' :: _ => (c.takeWhile isCommentChar).2
  | _ => c

def lineEnd : Scan Unit := fun c =>
  let c := c.skipBlanks.skipComment
  if c.rest.isEmpty then some ((), c) else lineBreak c

/-- Pass over blanks, comments and line breaks. A comment has a line break after it. -/
def skipLines : Nat → Cursor → Option Cursor
  | 0, c => some c
  | fuel + 1, c =>
    let c := c.skipBlanks
    match c.rest with
    | '#' :: _ => (lineBreak c.skipComment).bind fun (_, c) => skipLines fuel c
    | '\n' :: _ | '\r' :: _ => (lineBreak c).bind fun (_, c) => skipLines fuel c
    | _ => some c

def skipAllLines (c : Cursor) : Option Cursor := c.skipLines (c.rest.length + 1)

end Cursor

end FrameHost.Toml
