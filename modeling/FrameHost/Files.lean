import FrameHost.Text.Shown

/-! A tree of files, and what a system says when a file cannot be reached.

A path is walked part by part from the root or from the working directory. -/

set_option autoImplicit false

namespace FrameHost.Files

inductive Fault where
  | notFound | denied | exists | notDirectory | isDirectory | nameTooLong
  | other (code : Nat) (reason : String)
  | nul
  | notText
  deriving DecidableEq, Repr

namespace Fault

def code? : Fault → Option Nat
  | .notFound => some 2
  | .denied => some 13
  | .exists => some 17
  | .notDirectory => some 20
  | .isDirectory => some 21
  | .nameTooLong => some 36
  | .other code _ => some code
  | .nul | .notText => none

def kind : Fault → String
  | .notFound => "NotFound"
  | .denied => "PermissionDenied"
  | .exists => "AlreadyExists"
  | .notDirectory => "NotADirectory"
  | .isDirectory => "IsADirectory"
  | .nameTooLong => "InvalidFilename"
  | .other _ _ => "Uncategorized"
  | .nul => "InvalidInput"
  | .notText => "InvalidData"

def reason : Fault → String
  | .notFound => "No such file or directory"
  | .denied => "Permission denied"
  | .exists => "File exists"
  | .notDirectory => "Not a directory"
  | .isDirectory => "Is a directory"
  | .nameTooLong => "File name too long"
  | .other _ reason => reason
  | .nul => "file name contained an unexpected NUL byte"
  | .notText => "stream did not contain valid UTF-8"

def ofCode (code : Nat) (reason : String) : Fault :=
  let known : List Fault :=
    [.notFound, .denied, .exists, .notDirectory, .isDirectory, .nameTooLong]
  (known.find? fun f => f.code? = some code).getD (other code reason)

def message (f : Fault) : String :=
  match f.code? with
  | some code => f.reason ++ " (os error " ++ toString code ++ ")"
  | none => f.reason

def shown (f : Fault) : String :=
  let rest := [("kind", f.kind), ("message", Text.quoted f.reason)]
  match f.code? with
  | some code => Shown.record "Os" (("code", toString code) :: rest)
  | none => Shown.record "Error" rest

end Fault

inductive Node where
  | file (content : String)
  | directory (entries : List (String × Node))
  deriving Inhabited

abbrev Location := List String

namespace Node

def child? (name : String) : Node → Option Node
  | .directory entries => entries.lookup name
  | .file _ => none

def at? (root : Node) (location : Location) : Option Node :=
  location.foldl (fun node name => node.bind (child? name)) (some root)

def isDirectory : Node → Bool
  | .directory _ => true
  | .file _ => false

def setEntry (name : String) (node : Node) : List (String × Node) → List (String × Node)
  | [] => [(name, node)]
  | (n, old) :: rest => if n = name then (n, node) :: rest else (n, old) :: setEntry name node rest

def put (root : Node) (location : Location) (node : Node) : Node :=
  match location with
  | [] => node
  | name :: rest =>
    let entries := match root with
      | .directory entries => entries
      | .file _ => []
    let inner := (entries.lookup name).getD (.directory [])
    .directory (setEntry name (inner.put rest node) entries)

end Node

structure Path where
  absolute : Bool
  parts : List String
  slashed : Bool
  deriving DecidableEq, Repr, Inhabited

namespace Path

def splitParts (text : List Char) : List (List Char) :=
  text.foldr
    (fun c parts =>
      if c = '/' then [] :: parts
      else
        match parts with
        | [] => [[c]]
        | part :: rest => (c :: part) :: rest)
    [[]]

def ofText (text : String) : Path :=
  let chars := text.toList
  { absolute := chars.head? = some '/'
    parts := ((splitParts chars).filter fun part => !part.isEmpty).map String.ofList
    slashed := chars.getLast? = some '/' }

def text (p : Path) : String :=
  (if p.absolute then "/" else "") ++ String.intercalate "/" p.parts ++ (if p.slashed then "/" else "")

/-- The parts that name something: a dot does so only at the front of a relative path. -/
def names (p : Path) : List String :=
  match p.absolute, p.parts with
  | false, "." :: rest => "." :: rest.filter (· ≠ ".")
  | _, parts => parts.filter (· ≠ ".")

def parent? (p : Path) : Option Path :=
  if p.names.isEmpty then none
  else some { absolute := p.absolute, parts := p.names.dropLast, slashed := false }

def isEmpty (p : Path) : Bool := !p.absolute && p.parts.isEmpty

end Path

structure Tree where
  root : Node
  here : Location
  deriving Inhabited

namespace Tree

/-- The place that one part of a path leads to. -/
def walkPart (t : Tree) (location : Location) (part : String) : Except Fault Location :=
  match t.root.at? location with
  | some (.directory entries) =>
    if part = "." then .ok location
    else if part = ".." then .ok location.dropLast
    else if 255 < part.utf8ByteSize then .error .nameTooLong
    else if (entries.lookup part).isSome then .ok (location ++ [part])
    else .error .notFound
  | some (.file _) => .error .notDirectory
  | none => .error .notFound

def start (t : Tree) (p : Path) : Location := if p.absolute then [] else t.here

def walk (t : Tree) (p : Path) : Except Fault Location :=
  if p.isEmpty then .error .notFound
  else do
    let location ← p.parts.foldlM t.walkPart (t.start p)
    -- A slash at the end asks for a directory.
    if p.slashed ∧ ((t.root.at? location).any fun node => !node.isDirectory) then
      .error .notDirectory
    else return location

def isDirectory (t : Tree) (p : Path) : Bool :=
  match t.walk p with
  | .ok location => (t.root.at? location).any Node.isDirectory
  | .error _ => false

def walkToLast (t : Tree) (p : Path) : Except Fault (Location × String) := do
  let location ← p.parts.dropLast.foldlM t.walkPart (t.start p)
  match t.root.at? location, p.parts.getLast? with
  | some (.directory _), some last => return (location, last)
  | some (.file _), _ => .error .notDirectory
  | _, _ => .error .notFound

def makeDirectory (t : Tree) (p : Path) : Except Fault Tree := do
  let (location, last) ← t.walkToLast p
  match t.walkPart location last with
  | .ok _ => .error .exists
  | .error .notFound => return { t with root := t.root.put (location ++ [last]) (.directory []) }
  | .error fault => .error fault

/-- Make a directory and those that it lies in. `depth` is the number of its names. -/
def makeDirectories (t : Tree) : Nat → Path → Except Fault Tree
  | 0, _ => .ok t
  | depth + 1, p =>
    if p.isEmpty then .ok t
    else
      match t.makeDirectory p with
      | .ok t => .ok t
      | .error .notFound => do
        let t ← match p.parent? with
          | some parent => t.makeDirectories depth parent
          | none => .error .notFound
        match t.makeDirectory p with
        | .ok t => .ok t
        | .error fault => if t.isDirectory p then .ok t else .error fault
      -- A directory that is there already is as good as a new one.
      | .error fault => if t.isDirectory p then .ok t else .error fault

def openFile (t : Tree) (p : Path) : Except Fault (Tree × Location) := do
  let (location, last) ← t.walkToLast p
  if p.slashed then .error .isDirectory
  else
    match t.walkPart location last with
    | .ok place =>
      match t.root.at? place with
      | some (.file _) => return (t, place)
      | _ => .error .isDirectory
    | .error .notFound =>
      let place := location ++ [last]
      return ({ t with root := t.root.put place (.file "") }, place)
    | .error fault => .error fault

def openForAppend (t : Tree) (text : String) : Except Fault (Tree × Location) :=
  let p := Path.ofText text
  if p.isEmpty then .error .notFound
  else if '\x00' ∈ text.toList then .error .nul
  else do
    let t ← match p.parent? with
      | some parent => t.makeDirectories (parent.names.length + 1) parent
      | none => .ok t
    t.openFile p

def readFile (t : Tree) (text : String) : Except Fault String := do
  if '\x00' ∈ text.toList then .error .nul
  else
    let location ← t.walk (.ofText text)
    match t.root.at? location with
    | some (.file content) => return content
    | some (.directory _) => .error .isDirectory
    | none => .error .notFound

def ofFiles (files : List (String × String)) : Tree :=
  let here := ["tmp", "host"]
  let root := files.foldl
    (fun root (path, content) => root.put (here ++ (Path.ofText path).parts) (.file content))
    (Node.put (.directory []) here (.directory []))
  { root, here }

end Tree

end FrameHost.Files
