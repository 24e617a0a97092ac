import FrameHost.Toml.Number
import FrameHost.Toml.Table
import FrameHost.Toml.Text

/-! Keys and values in TOML. Lists and tables may stand inside one another up to a fixed
depth. -/

set_option autoImplicit false

namespace FrameHost.Toml

/-- Keys have fewer names than this, and values fewer brackets and braces around them. -/
def depthLimit : Nat := 80

def isBareKeyChar (a : Char) : Bool := a.isAlphanum || a == '-' || a == '_'

def keyName : Scan Key := fun c => do
  let (name, after) ← match c.peek? with
    | some '"' => line '"' c
    | some '\'' => line '\'' c
    | _ =>
      let (row, after) := c.takeWhile isBareKeyChar
      if row.isEmpty then none else some (String.ofList row, after)
  return ({ name, span := ⟨c.offset, after.offset⟩ }, after)

def keyNames : Nat → Scan (List Key)
  | 0, _ => none
  | fuel + 1, c => do
    let (key, c) ← keyName c.skipBlanks
    let c := c.skipBlanks
    match c.rest with
    | '.' :: _ => do
      let (_, c) ← c.skip '.'
      let (more, c) ← keyNames fuel c
      return (key :: more, c)
    | _ => return ([key], c)

def key : Scan (List Key × Key) := fun c => do
  let (names, c) ← keyNames (c.rest.length + 1) c
  let last ← names.getLast?
  if names.length < depthLimit then some ((names.dropLast, last), c) else none

def listItems (item : Scan Node) : Nat → Scan (List Node)
  | 0, _ => none
  | fuel + 1, c => do
    let c ← c.skipAllLines
    match c.rest with
    | ']' :: _ => do
      let (_, c) ← c.skip ']'
      return ([], c)
    | _ => do
      let (node, c) ← item c
      let c ← c.skipAllLines
      match c.rest with
      | ',' :: _ => do
        let (_, c) ← c.skip ','
        let (more, c) ← listItems item fuel c
        return (node :: more, c)
      | _ => do
        let (_, c) ← c.skip ']'
        return ([node], c)

def braceEntries (item : Scan Node) : Nat → Entries → Scan Entries
  | 0, _, _ => none
  | fuel + 1, entries, c => do
    let ((path, key), c) ← key c
    let (_, c) ← c.skip '='
    let (node, c) ← item c.skipBlanks
    let entries ← addValue path key node .braces entries
    let c := c.skipBlanks
    match c.rest with
    | ',' :: _ => do
      let (_, c) ← c.skip ','
      braceEntries item fuel entries c
    | _ => do
      let (_, c) ← c.skip '\x7d'
      return (entries, c)

def list (item : Scan Node) : Scan Node := fun start => do
  let (_, c) ← start.skip '['
  let (items, c) ← listItems item (c.rest.length + 1) c
  return (.list ⟨start.offset, c.offset⟩ items, c)

def braces (item : Scan Node) : Scan Node := fun start => do
  let (_, c) ← start.skip '\x7b'
  let (entries, c) ← match c.skipBlanks.rest with
    | '\x7d' :: _ => (c.skipBlanks.skip '\x7d').map fun (_, c) => (([] : Entries), c)
    | _ => braceEntries item (c.rest.length + 1) [] c
  return (.table .braces (some ⟨start.offset, c.offset⟩) entries, c)

def scalar : Scan Document := fun c => do
  match ← c.peek? with
  | '"' => (text '"' c).map fun (s, c) => (.text s, c)
  | '\'' => (text '\'' c).map fun (s, c) => (.text s, c)
  | 't' => (c.skipText "true".toList).map fun (_, c) => (.boolean true, c)
  | 'f' => (c.skipText "false".toList).map fun (_, c) => (.boolean false, c)
  | _ => number c

def leaf : Scan Node := fun start => do
  let (value, c) ← scalar start
  return (.leaf ⟨start.offset, c.offset⟩ value, c)

def value : Nat → Scan Node
  | 0, c =>
    match c.rest with
    | '[' :: _ | '\x7b' :: _ => none
    | _ => leaf c
  | depth + 1, c =>
    match c.rest with
    | '[' :: _ => list (value depth) c
    | '\x7b' :: _ => braces (value depth) c
    | _ => leaf c

end FrameHost.Toml
