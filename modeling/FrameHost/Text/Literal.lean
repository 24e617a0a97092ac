/-! Texts as they stand in a JSON message. -/

set_option autoImplicit false

namespace FrameHost.Text

/-- One character between the quotes. Control characters are escaped, by a letter where they
have one, and all others that need no escape stand for themselves. -/
def literalChar (c : Char) : List Char :=
  if c = '"' then ['\\', '"']
  else if c = '\\' then ['\\', '\\']
  else if c = '\x08' then ['\\', 'b']
  else if c = '\x0c' then ['\\', 'f']
  else if c = '\n' then ['\\', 'n']
  else if c = '\r' then ['\\', 'r']
  else if c = '\t' then ['\\', 't']
  else if c.toNat < 32 then
    ['\\', 'u', '0', '0', Nat.digitChar (c.toNat / 16), Nat.digitChar (c.toNat % 16)]
  else [c]

def literal (text : String) : String :=
  String.ofList ('"' :: text.toList.flatMap literalChar ++ ['"'])

def object (members : List (String × String)) : String :=
  let written := members.map fun (name, value) => literal name ++ ":" ++ value
  "\x7b" ++ String.intercalate "," written ++ "\x7d"

end FrameHost.Text
