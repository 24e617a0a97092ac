import FrameHost.Toml.Node

/-! Putting entries into tables, and the rules on which tables may be added to.

A heading opens a table once; names on the way to it may be tables of any kind that is not
closed. A dotted key goes only through tables that dotted keys or headings further in have
made, and ends in one that dotted keys have made. -/

set_option autoImplicit false

namespace FrameHost.Toml

abbrev Entries := List (Key × Node)

namespace Entries

def find? (name : String) (entries : Entries) : Option Node :=
  (List.find? (fun entry => entry.1.name = name) entries).map (·.2)

def replace (name : String) (value : Node) : Entries → Entries
  | [] => []
  | (key, old) :: rest =>
    if key.name = name then (key, value) :: rest else (key, old) :: replace name value rest

def remove (name : String) (entries : Entries) : Entries :=
  entries.filter fun entry => entry.1.name ≠ name

end Entries

abbrev Change := Origin → Entries → Option Entries

def mayPass (dotted : Bool) : Origin → Bool
  | .heading => !dotted
  | .implied | .dotted => true
  | .braces => false

/-- Change the table at the end of a path below a table. Missing tables are made; of a list of
tables the last one is taken. -/
def changeAt (dotted : Bool) : List Key → Change → Change
  | [], change, origin, entries => change origin entries
  | key :: path, change, _, entries =>
    match entries.find? key.name with
    | none => do
      let origin : Origin := if dotted then .dotted else .implied
      let inner ← changeAt dotted path change origin []
      return entries ++ [(key, .table origin none inner)]
    | some (.table origin span inner) =>
      if mayPass dotted origin then do
        let inner ← changeAt dotted path change origin inner
        return entries.replace key.name (.table origin span inner)
      else none
    | some (.sections span items) =>
      match items.getLast? with
      | some (.table origin last inner) => do
        let inner ← changeAt dotted path change origin inner
        return entries.replace key.name
          (.sections span (items.dropLast ++ [.table origin last inner]))
      | _ => none
    | some _ => none

def addEntry (key : Key) (value : Node) (entries : Entries) : Option Entries :=
  if (entries.find? key.name).isSome then none else some (entries ++ [(key, value)])

def addValue (path : List Key) (key : Key) (value : Node) : Change :=
  changeAt true path fun origin entries =>
    -- A dotted key adds nothing to a table that a heading has opened.
    if path.isEmpty ∨ origin = .dotted then addEntry key value entries else none

end FrameHost.Toml
