import FrameHost.Config.Fault
import FrameHost.Config

/-! Reading a configuration from a document.

Entries are read in the order of the document and the first fault is reported. Names that
mean nothing are passed over. A group of fields may also be written as a list of its values in
a fixed order. -/

set_option autoImplicit false

namespace FrameHost.Config

/-- How a group of named fields is read: a value that collects them, one reader to a field,
and the number of the first field that is still missing at the end. -/
structure Shape (α β : Type) where
  name : String
  start : α
  fields : List (String × (Dialect → Document → α → Except Fault α))
  finish : α → Except Nat β

def mismatch {α : Type} (d : Document) (expected : String) : Except Fault α :=
  .error { cause := .invalidType (.of d) expected }

def within {α : Type} (step : Step) (result : Except Fault α) : Except Fault α :=
  result.mapError (Fault.at step)

namespace Shape

variable {α β : Type} (shape : Shape α β) (dialect : Dialect)

def expected : String := "struct " ++ shape.name

def readEntry (state : α) (entry : String × Document) : Except Fault α :=
  match shape.fields.lookup entry.1 with
  | some read => within (.field entry.1) (read dialect entry.2 state)
  | none => .ok state

def readTable (entries : List (String × Document)) : Except Fault β := do
  let state ← entries.foldlM (shape.readEntry dialect) shape.start
  match shape.finish state with
  | .ok value => .ok value
  | .error i => .error { cause := .missingField ((shape.fields[i]?.map (·.1)).getD "") }

def lengthExpected : String :=
  shape.expected ++ " with " ++ toString shape.fields.length ++
    (if shape.fields.length = 1 then " element" else " elements")

/-- Items past the last field are passed over in one dialect and are a fault in the other. -/
def readList (items : List Document) : Except Fault β := do
  let state ← (shape.fields.zip items.zipIdx).foldlM
    (fun state (field, item, i) => within (.item i) (field.2 dialect item state)) shape.start
  match shape.finish state with
  | .error i => .error { cause := .invalidLength i shape.lengthExpected }
  | .ok value =>
    if dialect = .json ∧ shape.fields.length < items.length then
      .error { cause := .invalidLength items.length "fewer elements in array" }
    else .ok value

def read (d : Document) : Except Fault β :=
  match d.entries?, d.items? with
  | some entries, _ => shape.readTable dialect entries
  | _, some items => shape.readList dialect items
  | none, none => mismatch d shape.expected

end Shape

def readText (expected : String) : Document → Except Fault String
  | .text s => .ok s
  | d => mismatch d expected

def readBoolean : Document → Except Fault Bool
  | .boolean b => .ok b
  | d => mismatch d "a boolean"

def readCount : Document → Except Fault UInt64
  | .integer n =>
    if 0 ≤ n ∧ n < UInt64.size then .ok (UInt64.ofNat n.toNat)
    else .error { cause := .invalidValue (.integer n) "u64" }
  | d => mismatch d "u64"

def readOptional {α : Type} (read : Document → Except Fault α) : Document → Except Fault (Option α)
  | .null => .ok none
  | d => (read d).map some

def readItems {α : Type} (read : Document → Except Fault α) (d : Document) :
    Except Fault (List α) :=
  match d.items? with
  | some items => items.zipIdx.mapM fun (item, i) => within (.item i) (read item)
  | none => mismatch d "a sequence"

def formatNamed (name : String) : Except Fault LogFormat :=
  if name = LogFormat.text.name then .ok .text
  else if name = LogFormat.json.name then .ok .json
  else .error { cause := .unknownVariant name }

def readNothing : Dialect → Document → Except Fault Unit
  | .json, .null => .ok ()
  | .json, d => mismatch d "unit"
  | .toml, .list [] => .ok ()
  | .toml, .table [] => .ok ()
  | .toml, .list _ => .error { cause := .choiceNotEmpty "table" }
  | .toml, .table _ => .error { cause := .choiceNotEmpty "table" }
  | .toml, .sections [] => .ok ()
  | .toml, .sections _ => .error { cause := .choiceNotEmpty "array" }
  | .toml, d => .error { cause := .choiceNotTable (kindName d) }

def readChoice (dialect : Dialect) : List (String × Document) → Except Fault LogFormat
  | [(name, value)] => do
    -- A name that is no format is a fault of the key, not of its value.
    let format ← (formatNamed name).mapError fun f => { f.at (.choice name) with inKey := true }
    within (.choice name) (readNothing dialect value)
    return format
  | entries =>
    match dialect with
    | .json => .error { cause := .invalidValue .map "map with a single key" }
    | .toml => .error { cause := if entries.isEmpty then .noChoice else .manyChoices }

def readFormat (dialect : Dialect) : Document → Except Fault LogFormat
  | .text name => formatNamed name
  | .table entries => readChoice dialect entries
  | d =>
    match dialect with
    | .json => mismatch d "string or map"
    | .toml => .error { cause := .notAChoice }

def lifecycleShape : Shape Lifecycle Lifecycle where
  name := "LifecycleConfig"
  start := {}
  fields := [
    ("start_interval_ms", fun _ d l => do return { l with startIntervalMillis := ← readCount d }),
    ("shutdown_timeout_secs", fun _ d l => do
      return { l with shutdownTimeoutSeconds := ← readCount d })]
  finish := .ok

def loggingShape : Shape Logging Logging where
  name := "LoggingConfig"
  start := {}
  fields := [
    ("level", fun _ d l => do return { l with level := ← readText "a string" d }),
    ("format", fun dialect d l => do return { l with format := ← readFormat dialect d }),
    ("file", fun _ d l => do return { l with file := ← readOptional (readText "path string") d })]
  finish := .ok

def observabilityShape : Shape Observability Observability where
  name := "ObservabilityConfig"
  start := {}
  fields := [
    ("metrics_enabled", fun _ d o => do return { o with metricsEnabled := ← readBoolean d }),
    ("metrics_address", fun _ d o => do return { o with metricsAddress := ← readText "a string" d })]
  finish := .ok

structure PartialFrame where
  name : Option String := none
  version : Option String := none
  bindAddress : Option String := none
  requestTimeoutSeconds : UInt64 := 30

/-- A frame needs its name, which is the first field, and its address, which is the third. -/
def PartialFrame.finish (f : PartialFrame) : Except Nat FrameEntry :=
  match f.name, f.bindAddress with
  | none, _ => .error 0
  | _, none => .error 2
  | some name, some bindAddress =>
    .ok { name, version := f.version, bindAddress, requestTimeoutSeconds := f.requestTimeoutSeconds }

def frameShape : Shape PartialFrame FrameEntry where
  name := "FrameConfig"
  start := {}
  fields := [
    ("name", fun _ d f => do return { f with name := some (← readText "a string" d) }),
    ("version", fun _ d f => do return { f with version := ← readOptional (readText "a string") d }),
    ("bind_address", fun _ d f => do return { f with bindAddress := some (← readText "a string" d) }),
    ("request_timeout_secs", fun _ d f => do
      return { f with requestTimeoutSeconds := ← readCount d })]
  finish := PartialFrame.finish

def shape : Shape Config Config where
  name := "HostConfig"
  start := {}
  fields := [
    ("lifecycle", fun dialect d c => do
      return { c with lifecycle := ← lifecycleShape.read dialect d }),
    ("logging", fun dialect d c => do return { c with logging := ← loggingShape.read dialect d }),
    ("observability", fun dialect d c => do
      return { c with observability := ← observabilityShape.read dialect d }),
    ("frames", fun dialect d c => do
      return { c with frames := ← readItems (frameShape.read dialect) d })]
  finish := .ok

def read (dialect : Dialect) (d : Document) : Except Fault Config := shape.read dialect d

end FrameHost.Config
