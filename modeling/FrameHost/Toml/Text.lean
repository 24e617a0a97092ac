import FrameHost.Text.Digit
import FrameHost.Toml.Cursor

/-! Texts in TOML: between quotes with escapes, between apostrophes without, and both over
several lines between threefold marks. -/

set_option autoImplicit false

namespace FrameHost.Toml

def isTextChar (mark : Char) (a : Char) : Bool :=
  a == '\t' || (' ' ≤ a && a != '\x7f' && a != mark)

def codePoint (width : Nat) : Scan Char := fun c => do
  let digits ← (c.rest.take width).mapM (Text.digit? 16)
  let code := digits.foldl (fun n d => 16 * n + d) 0
  if digits.length = width ∧ code.isValidChar then
    some (Char.ofNat code, { rest := c.rest.drop width, offset := c.offset + width })
  else none

def escaped : Scan Char := fun c => do
  let (a, c) ← c.next?
  match a with
  | 'b' => some ('\x08', c)
  | 'f' => some ('\x0c', c)
  | 'n' => some ('\n', c)
  | 'r' => some ('\r', c)
  | 't' => some ('\t', c)
  | '"' => some ('"', c)
  | '\\' => some ('\\', c)
  | 'u' => codePoint 4 c
  | 'U' => codePoint 8 c
  | _ => none

/-- A text on one line, from after its opening mark to behind its closing one. Escapes are
read where the mark is a quote. -/
def lineText (mark : Char) : Nat → List Char → Scan (List Char)
  | 0, _, _ => none
  | fuel + 1, read, c => do
    let (a, c) ← c.next?
    if a = mark then some (read.reverse, c)
    else if a = '\\' ∧ mark = '"' then
      let (e, c) ← escaped c
      lineText mark fuel (e :: read) c
    else if isTextChar mark a then lineText mark fuel (a :: read) c
    else none

def skipBlankLines : Nat → Cursor → Cursor
  | 0, c => c
  | fuel + 1, c =>
    let c := c.skipBlanks
    match c.lineBreak with
    | some (_, c) => skipBlankLines fuel c
    | none => c

/-- The rest of a text over several lines. One or two marks may stand in it, three to five end
it, and all of these but the last three belong to it. A backslash at the end of a line joins
it to the next character that is no blank. -/
def blockText (mark : Char) : Nat → List Char → Scan (List Char)
  | 0, _, _ => none
  | fuel + 1, read, c =>
    match c.rest with
    | [] => none
    | a :: _ =>
      if a = mark then
        let (marks, c) := c.takeWhile (· = mark)
        if marks.length < 3 then blockText mark fuel (marks ++ read) c
        else if marks.length ≤ 5 then some ((marks.drop 3 ++ read).reverse, c)
        else none
      else if a = '\n' ∨ a = '\r' then do
        let (_, c) ← c.lineBreak
        blockText mark fuel ('\n' :: read) c
      else if a = '\\' ∧ mark = '"' then do
        let (_, c) ← c.next?
        match c.skipBlanks.lineBreak with
        | some (_, after) => blockText mark fuel read (skipBlankLines after.rest.length after)
        | none =>
          let (e, c) ← escaped c
          blockText mark fuel (e :: read) c
      else if isTextChar mark a then do
        let (a, c) ← c.next?
        blockText mark fuel (a :: read) c
      else none

/-- A text over several lines, from its first mark on. A line break right after the opening
marks is not part of it. -/
def block (mark : Char) : Scan String := fun c => do
  let (_, c) ← c.skipText [mark, mark, mark]
  let c := match c.lineBreak with
    | some (_, after) => after
    | none => c
  let (text, c) ← blockText mark (c.rest.length + 1) [] c
  return (String.ofList text, c)

def line (mark : Char) : Scan String := fun c => do
  let (_, c) ← c.skip mark
  let (text, c) ← lineText mark (c.rest.length + 1) [] c
  return (String.ofList text, c)

def text (mark : Char) : Scan String := fun c =>
  if c.startsWith [mark, mark, mark] then block mark c else line mark c

end FrameHost.Toml
