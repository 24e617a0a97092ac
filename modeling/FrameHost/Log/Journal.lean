import FrameHost.Config
import FrameHost.Files
import FrameHost.Log.Filter
import FrameHost.Log.Line
import FrameHost.Log.Sink

/-! A log that is set up: a filter, a style of lines and a sink.

The filter of the environment goes before the configured level, unless it cannot be read. The
filter is settled before the file is opened. -/

set_option autoImplicit false

namespace FrameHost.Log

structure Journal where
  filter : Filter
  style : Style
  sink : Sink
  location : Option Files.Location := none
  deriving Inhabited

namespace Journal

inductive Failure where
  | filter (defect : Filter.Defect)
  | file (path : String) (fault : Files.Fault)
  deriving DecidableEq, Repr

def Failure.message : Failure → String
  | .filter defect => "invalid log filter: " ++ defect.message
  | .file path fault => "cannot open log file " ++ path ++ ": " ++ fault.message

def filterVariable : String := "RUST_LOG"

/-- The filter: a torn one is an error wherever it comes from. -/
def chooseFilter [Patterns] (environment : Option String) (level : String) : Except Filter.Defect Filter :=
  match environment.map Filter.parse with
  | some (.ok filter) => .ok filter
  | some (.error .torn) => .error .torn
  | _ => Filter.parse level

def styleOf (c : Config.Logging) : Style :=
  match c.format, c.file with
  | .json, _ => .json
  | .text, none => .coloured
  | .text, some _ => .plain

def start (filter : Filter) (c : Config.Logging) (sink : Sink) : Journal :=
  { filter, style := styleOf c, sink }

def contentAt (tree : Files.Tree) (place : Files.Location) : Bytes :=
  match tree.root.at? place with
  | some (.file content) => Text.bytesOf content
  | _ => []

/-- Set up a log. An absent environment leaves the filter to the configuration. -/
def setUp [Patterns] (tree : Files.Tree) (environment : Option String) (c : Config.Logging) :
    Except Failure (Journal × Files.Tree) := do
  let filter ← (chooseFilter environment c.level).mapError .filter
  match c.file with
  | none => return (start filter c (.terminal []), tree)
  | some path =>
    let (tree, place) ← (tree.openForAppend path).mapError (.file path)
    let sink := Sink.opened (contentAt tree place)
    return ({ start filter c sink with location := some place }, tree)

def say (j : Journal) (time : String) (r : Record) : Journal :=
  if j.filter.admits r then { j with sink := j.sink.write (Text.bytesOf (j.style.line time r)) } else j

def close (j : Journal) : Journal := { j with sink := j.sink.close }

end Journal

end FrameHost.Log
