import FrameHost.Net.SocketAddress

/-! Marks that stand for what differs from run to run. -/

set_option autoImplicit false

namespace FrameHost.Session.Marks

/-- Says whether something begins at the front of a text: what to show in its place, and how
many characters it has. -/
abbrev Rule := List Char → Option (List Char × Nat)

/-- Apply a rule from left to right. `skip` counts characters that have been replaced. -/
def apply (rule : Rule) : Nat → List Char → List Char
  | _, [] => []
  | skip + 1, _ :: rest => apply rule skip rest
  | 0, c :: rest =>
    match rule (c :: rest) with
    | some (shown, size) => shown ++ apply rule (size - 1) rest
    | none => c :: apply rule 0 rest

def someTime : String := "2000-01-01T00:00:00.000000Z"

/-- Does a text begin with a time? Digits stand for any digits. -/
def beginsWithTime : List Char → List Char → Bool
  | [], _ => true
  | p :: pattern, c :: text => (if p.isDigit then c.isDigit else p = c) && beginsWithTime pattern text
  | _ :: _, [] => false

def times : Rule := fun text =>
  if beginsWithTime someTime.toList text then some ("<time>".toList, someTime.length) else none

def numberAt (text : List Char) : Option Nat :=
  let digits := text.takeWhile Char.isDigit
  if digits.isEmpty || digits.head? = some '0' then none else some digits.length

def numbersAfter (leads : List String) (mark : String) : Rule := fun text =>
  leads.findSome? fun lead =>
    if lead.toList.isPrefixOf text then
      (numberAt (text.drop lead.length)).map fun size =>
        (lead.toList ++ mark.toList, lead.length + size)
    else none

def ports : Rule := fun text =>
  match Net.Reader.octets text with
  | some (_, ':' :: rest) =>
    (numberAt rest).map fun size =>
      let front := text.take (text.length - rest.length)
      (front ++ "<port>".toList, front.length + size)
  | _ => none

def all (rules : List Rule) (text : String) : String :=
  String.ofList (rules.foldl (fun text rule => apply rule 0 text) text.toList)

end FrameHost.Session.Marks
