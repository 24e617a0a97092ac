/-! Documents: trees of values under keys, as read from a file or a message. -/

set_option autoImplicit false

namespace FrameHost

/-- A value of a document. Tables keep the order of their entries. -/
inductive Document where
  | null
  | boolean (b : Bool)
  | integer (n : Int)
  | number (x : Float)
  | text (s : String)
  | moment
  | list (items : List Document)
  /-- A list of tables, each written under a heading of its own. -/
  | sections (items : List Document)
  | table (entries : List (String × Document))
  deriving Inhabited

namespace Document

/-- Put an entry at its place among entries sorted by key, in the place of one with its key. -/
def insertSorted (key : String) (value : Document) :
    List (String × Document) → List (String × Document)
  | [] => [(key, value)]
  | (k, v) :: rest =>
    if key < k then (key, value) :: (k, v) :: rest
    else if key = k then (key, value) :: rest
    else (k, v) :: insertSorted key value rest

/-- A table of the members of an object: sorted by key, the last of several equal keys. -/
def ofMembers (members : List (String × Document)) : Document :=
  .table (members.foldl (fun entries member => insertSorted member.1 member.2 entries) [])

def entries? : Document → Option (List (String × Document))
  | .table entries => some entries
  -- A moment is read as a table whose entries mean nothing.
  | .moment => some []
  | _ => none

def items? : Document → Option (List Document)
  | .list items => some items
  | .sections items => some items
  | _ => none

end Document

end FrameHost
