import FrameHost.Text.Printable

/-! Quoted text: a form between double quotes in which every character shows.

Characters without a shape of their own are written by their code point, so two texts that
look alike have different quoted forms. -/

set_option autoImplicit false

namespace FrameHost.Text

def hexDigits (n : Nat) : List Char := Nat.toDigits 16 n

def codePointEscape (c : Char) : List Char :=
  '\\' :: 'u' :: '\x7b' :: hexDigits c.toNat ++ ['\x7d']

def quotedChar (c : Char) : List Char :=
  if c = '\x00' then ['\\', '0']
  else if c = '\t' then ['\\', 't']
  else if c = '\r' then ['\\', 'r']
  else if c = '\n' then ['\\', 'n']
  else if c = '"' then ['\\', '"']
  else if c = '\\' then ['\\', '\\']
  else if isExtending c || !isPrintable c then codePointEscape c
  else [c]

def quoted (text : String) : String :=
  String.ofList ('"' :: text.toList.flatMap quotedChar ++ ['"'])

end FrameHost.Text
