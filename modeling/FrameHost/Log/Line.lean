import FrameHost.Log.Record
import FrameHost.Text.Literal

/-! Records as lines: plain, with colours for a terminal, or as JSON.

In the first two the message cannot disturb a terminal: its control characters are written
out, but for blanks, ends of lines and NUL. -/

set_option autoImplicit false

namespace FrameHost.Log

inductive Style where
  | plain | coloured | json
  deriving DecidableEq, Repr, Inhabited

def hexText (n : Nat) : List Char := Nat.toDigits 16 n

def messageChar (c : Char) : List Char :=
  if c = '\x1b' ∨ c = '\x07' ∨ c = '\x08' ∨ c = '\x0c' ∨ c = '\x7f' then
    let hex := hexText c.toNat
    '\\' :: 'x' :: List.replicate (2 - hex.length) '0' ++ hex
  else if 0x80 ≤ c.toNat ∧ c.toNat ≤ 0x9F then
    '\\' :: 'u' :: '\x7b' :: hexText c.toNat ++ ['\x7d']
  else [c]

def messageText (message : String) : String :=
  String.ofList (message.toList.flatMap messageChar)

def Level.padded (l : Level) : String :=
  String.ofList (List.replicate (5 - l.name.length) ' ') ++ l.name

def Level.colour : Level → Nat
  | .error => 31
  | .warn => 33
  | .info => 32
  | .debug => 34
  | .trace => 35

def rendered (rendition : Nat) (text : String) : String :=
  "\x1b[" ++ toString rendition ++ "m" ++ text ++ "\x1b[0m"

def dim : Nat := 2

def italic : Nat := 3

def Value.json : Value → String
  | .text s => Text.literal s
  | .number x => Decimal.Layout.json.float x
  | v => v.plain

namespace Style

def plainLine (time : String) (r : Record) : String :=
  time ++ " " ++ r.level.padded ++ " " ++ r.target ++ ": " ++ messageText r.message
    ++ String.join (r.fields.map fun (name, value) => " " ++ name ++ "=" ++ value.plain)

def colouredLine (time : String) (r : Record) : String :=
  let field (name : String) (value : Value) : String :=
    " " ++ rendered italic name ++ rendered dim "=" ++ value.plain
  rendered dim time ++ " " ++ rendered r.level.colour r.level.padded ++ " "
    ++ rendered dim r.target ++ rendered dim ":" ++ " " ++ messageText r.message
    ++ String.join (r.fields.map fun (name, value) => field name value)

def jsonLine (time : String) (r : Record) : String :=
  let fields := ("message", Text.literal r.message) :: r.fields.map fun (name, value) => (name, value.json)
  Text.object [
    ("timestamp", Text.literal time), ("level", Text.literal r.level.name),
    ("fields", Text.object fields), ("target", Text.literal r.target)]

def line (style : Style) (time : String) (r : Record) : String :=
  let text := match style with
    | .plain => plainLine time r
    | .coloured => colouredLine time r
    | .json => jsonLine time r
  text ++ "\n"

end Style

end FrameHost.Log
