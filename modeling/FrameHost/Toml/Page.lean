import FrameHost.Toml.Value

/-! A whole TOML text: lines with entries under headings.

The entries under a heading are gathered until the next heading and then put at their place.
A heading takes over the table that headings further in have made for it. -/

set_option autoImplicit false

namespace FrameHost.Toml

structure Section where
  path : List Key := []
  /-- The last name of the heading; there is none before the first heading. -/
  name : Option Key := none
  repeated : Bool := false
  span : Option Span := none
  entries : Entries := []
  deriving Inhabited

structure Page where
  root : Entries := []
  current : Section := {}
  deriving Inhabited

def sectionsSpan (items : List Node) : Option Span := do
  let first ← (← items.head?).span?
  let last ← (← items.getLast?).span?
  return ⟨first.start, last.stop⟩

def appendSection (key : Key) (table : Node) (entries : Entries) : Option Entries :=
  match entries.find? key.name with
  | none => some (entries ++ [(key, .sections (sectionsSpan [table]) [table])])
  | some (.sections _ items) =>
    let items := items ++ [table]
    some (entries.replace key.name (.sections (sectionsSpan items) items))
  | some _ => none

def Section.finish (s : Section) (root : Entries) : Option Entries :=
  match s.name with
  | none => some s.entries
  | some key =>
    let table : Node := .table .heading s.span s.entries
    changeAt false s.path
      (fun _ entries =>
        if s.repeated then appendSection key table entries else addEntry key table entries)
      .heading root

/-- The entries that wait for a heading of a name, and the others; none if the name is taken. -/
def claim (name : String) (entries : Entries) : Option (Entries × Entries) :=
  match entries.find? name with
  | none => some ([], entries)
  | some (.table .implied _ inner) => some (inner, entries.remove name)
  | some _ => none

/-- What lies at the end of a path, where tables that are missing count as empty. -/
def entriesAt? : List Key → Entries → Entries
  | [], entries => entries
  | key :: path, entries =>
    match entries.find? key.name with
    | some (.table _ _ inner) => entriesAt? path inner
    | some (.sections _ items) =>
      match items.getLast? with
      | some (.table _ _ inner) => entriesAt? path inner
      | _ => []
    | _ => []

def Page.openSection (p : Page) (path : List Key) (key : Key) (repeated : Bool) (span : Span) :
    Option Page := do
  let root ← p.current.finish p.root
  if repeated then
    let root ← changeAt false path
      (fun _ entries =>
        match entries.find? key.name with
        | none => some (entries ++ [(key, .sections none [])])
        | some (.sections ..) => some entries
        | some _ => none)
      .heading root
    return { root, current := { path, name := some key, repeated, span := some span } }
  else
    -- What headings further in have put there already belongs to this section.
    let (entries, _) ← claim key.name (entriesAt? path root)
    let root ← changeAt false path (fun _ below => some (below.remove key.name)) .heading root
    return { root, current := { path, name := some key, span := some span, entries } }

/-- Take an entry of the current section. The section's span grows to the end of a value that
has a span. -/
def Page.addEntry (p : Page) (path : List Key) (key : Key) (value : Node) : Option Page := do
  let entries ← addValue path key value .heading p.current.entries
  let span := match p.current.span, value.span? with
    | some s, some v => some ⟨s.start, v.stop⟩
    | s, _ => s
  return { p with current := { p.current with span, entries } }

def heading (p : Page) : Scan Page := fun start => do
  let (repeated, c) ← match start.rest with
    | '[' :: '[' :: _ => (start.skipText ['[', '[']).map fun (_, c) => (true, c)
    | _ => (start.skip '[').map fun (_, c) => (false, c)
  let ((path, name), c) ← key c
  let (_, c) ← c.skipText (if repeated then [']', ']'] else [']'])
  let (_, after) ← c.lineEnd
  let p ← p.openSection path name repeated ⟨start.offset, c.offset⟩
  return (p, after)

def keyLine (p : Page) : Scan Page := fun c => do
  let ((path, name), c) ← key c
  let (_, c) ← c.skip '='
  let (node, c) ← value (depthLimit - 1) c.skipBlanks
  let (_, c) ← c.lineEnd
  return (← p.addEntry path name node, c)

def lines : Nat → Page → Cursor → Option Page
  | 0, _, _ => none
  | fuel + 1, p, c =>
    let c := c.skipBlanks
    match c.rest with
    | [] => some p
    | '#' :: _ | '\n' :: _ | '\r' :: _ => c.lineEnd.bind fun (_, c) => lines fuel p c
    | '[' :: _ => (heading p c).bind fun (p, c) => lines fuel p c
    | _ => (keyLine p c).bind fun (p, c) => lines fuel p c

/-- Read a whole text. A mark of the order of bytes may stand before it. -/
def parse? (content : String) : Option Node := do
  let start : Cursor := { rest := content.toList }
  let start := match start.skip '\ufeff' with
    | some (_, c) => c
    | none => start
  let page ← lines (start.rest.length + 1) {} start
  let root ← page.current.finish page.root
  return .table .heading none root

end FrameHost.Toml
