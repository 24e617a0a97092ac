import FrameHost.Config.Fault

/-! The tree of a TOML text: values, tables and lists of tables with the parts of the text
that they were read from. -/

set_option autoImplicit false

namespace FrameHost.Toml

structure Span where
  start : Nat
  stop : Nat
  deriving DecidableEq, Repr, Inhabited

structure Key where
  name : String
  span : Span
  deriving DecidableEq, Repr, Inhabited

/-- How a table came to be: under a heading, as a name on the way to another heading, by a
dotted key, or between braces. -/
inductive Origin where
  | heading | implied | dotted | braces
  deriving DecidableEq, Repr, Inhabited

/-- A table that no dotted key and no heading went through has a span. -/
inductive Node where
  | leaf (span : Span) (value : Document)
  | list (span : Span) (items : List Node)
  | table (origin : Origin) (span : Option Span) (entries : List (Key × Node))
  | sections (span : Option Span) (items : List Node)
  deriving Inhabited

namespace Node

def span? : Node → Option Span
  | .leaf span _ | .list span _ => some span
  | .table _ span _ | .sections span _ => span

mutual

def document : Node → Document
  | .leaf _ value => value
  | .list _ items => .list (documents items)
  | .table _ _ entries => .table (documentEntries entries)
  | .sections _ items => .sections (documents items)

def documents : List Node → List Document
  | [] => []
  | node :: rest => node.document :: documents rest

def documentEntries : List (Key × Node) → List (String × Document)
  | [] => []
  | (key, node) :: rest => (key.name, node.document) :: documentEntries rest

end

def entry? (name : String) : Node → Option (Key × Node)
  | .table _ _ entries => entries.find? fun entry => entry.1.name = name
  | _ => none

def item? (index : Nat) : Node → Option Node
  | .list _ items | .sections _ items => items[index]?
  | _ => none

/-- The part of the text at which a fault is shown: the innermost value on the path that has
a span, where the key of a field stands in for a value without one. -/
def locate (inKey : Bool) : List Config.Step → Node → Option Span
  | [], node => node.span?
  | .field name :: rest, node =>
    match node.entry? name with
    | some (key, child) => (child.locate inKey rest).or (child.span?.or (some key.span))
    | none => none
  | .item i :: rest, node =>
    match node.item? i with
    | some child => (child.locate inKey rest).or child.span?
    | none => none
  | .choice name :: rest, node =>
    match node.entry? name with
    | some (key, child) => if inKey then some key.span else child.locate inKey rest
    | none => none

end Node

end FrameHost.Toml
