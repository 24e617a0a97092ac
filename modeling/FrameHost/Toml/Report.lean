import FrameHost.Text.Shown
import FrameHost.Toml.Cursor
import FrameHost.Toml.Node

/-! A text that is TOML but not what was expected, and where.

A report shows the line with a mark below the part that is at fault. -/

set_option autoImplicit false

namespace FrameHost.Toml

def before : Nat → List Char → List Char
  | _, [] => []
  | 0, _ => []
  | n + 1, c :: rest => c :: before (n + 1 - c.utf8Size) rest

def lineRest (text : List Char) : List Char := text.takeWhile (· ≠ '\n')

def lineFront (read : List Char) : List Char := (read.reverse.takeWhile (· ≠ '\n')).reverse

/-- What is wrong, and in which part of the text. The keys lead to the table at fault. -/
structure Misfit where
  content : String
  span : Span
  what : String
  keys : List String
  deriving DecidableEq, Repr

namespace Misfit

/-- Columns count characters. The mark has at least one character and none past the bytes of
the line. -/
def report (m : Misfit) : String :=
  let text := m.content.toList
  let read := before m.span.start text
  let front := lineFront read
  let line := front ++ lineRest (text.drop read.length)
  let number := toString (read.count '\n' + 1)
  let gutter := String.ofList (List.replicate (number.length + 1) ' ') ++ "|"
  let marks := max 1 (min (m.span.stop - m.span.start) (byteSize line - front.length))
  "TOML parse error at line " ++ number ++ ", column " ++ toString (front.length + 1) ++ "\n"
    ++ gutter ++ "\n"
    ++ number ++ " | " ++ String.ofList line ++ "\n"
    ++ gutter ++ String.ofList (List.replicate (front.length + 1) ' ')
    ++ String.ofList (List.replicate marks '^') ++ "\n"
    ++ m.what ++ "\n"

def shown (m : Misfit) : String :=
  let inner := Shown.record "TomlError" [
    ("message", Text.quoted m.what),
    ("raw", Shown.optional (some (Text.quoted m.content))),
    ("keys", Shown.list (m.keys.map Text.quoted)),
    ("span", Shown.optional (some (toString m.span.start ++ ".." ++ toString m.span.stop)))]
  Shown.record "Error" [("inner", Shown.record "Error" [("inner", inner)])]

end Misfit

end FrameHost.Toml
