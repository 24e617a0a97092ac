import FrameHost.Config
import FrameHost.Log.Filter
import FrameHost.Net.SocketAddress

/-! Faults in the meaning of a configuration, all of them in a fixed order. -/

set_option autoImplicit false

namespace FrameHost.Config

inductive ValidationError where
  | emptyName (index : Nat)
  | duplicateFrame (key : String)
  | invalidAddress (key address : String)
  | sharedAddress (address : String)
  | zeroValue (field : String)
  | logLevel (text : String)
  | metricsAddress (text : String)
  deriving DecidableEq, Repr

namespace ValidationError

def message : ValidationError → String
  | .emptyName index => "frame #" ++ toString index ++ " has an empty name"
  | .duplicateFrame key => "frame " ++ key ++ " is declared more than once"
  | .invalidAddress key address => "frame " ++ key ++ " has invalid bind address " ++ address
  | .sharedAddress address => "frames share bind address " ++ address
  | .zeroValue field => field ++ " must be greater than zero"
  | .logLevel text => "invalid log level " ++ Text.quoted text
  | .metricsAddress text => "invalid metrics address " ++ text

def shown : ValidationError → String
  | .emptyName index => Shown.record "EmptyName" [("index", toString index)]
  | .duplicateFrame key => Shown.record "DuplicateFrame" [("key", Text.quoted key)]
  | .invalidAddress key address =>
    Shown.record "InvalidAddress" [("key", Text.quoted key), ("address", Text.quoted address)]
  | .sharedAddress address => Shown.record "SharedAddress" [("address", Text.quoted address)]
  | .zeroValue field => Shown.record "ZeroValue" [("field", Text.quoted field)]
  | .logLevel text => Shown.wrapped "LogLevel" (Text.quoted text)
  | .metricsAddress text => Shown.wrapped "MetricsAddress" (Text.quoted text)

end ValidationError

def lifecycleErrors (l : Lifecycle) : List ValidationError :=
  if l.shutdownTimeoutSeconds = 0 then [.zeroValue "lifecycle.shutdown_timeout_secs"] else []

/-- The error in a log level, unless the level is a torn text. -/
def levelErrors? [Log.Patterns] (level : String) : Option (List ValidationError) :=
  match Log.Filter.parse level with
  | .ok _ => some []
  | .error .torn => none
  | .error _ => some [.logLevel level]

def metricsErrors (o : Observability) : List ValidationError :=
  if o.metricsEnabled ∧ Net.SocketAddress.parse? o.metricsAddress = none then
    [.metricsAddress o.metricsAddress]
  else []

structure Taken where
  keys : List String := []
  addresses : List Net.SocketAddress := []
  deriving DecidableEq, Repr, Inhabited

def addressErrors (addresses : List Net.SocketAddress) (key : String) (f : FrameEntry) :
    List ValidationError × List Net.SocketAddress :=
  match Net.SocketAddress.parse? f.bindAddress with
  | some address =>
    if address ∈ addresses then ([.sharedAddress f.bindAddress], addresses)
    else ([], address :: addresses)
  | none => ([.invalidAddress key f.bindAddress], addresses)

/-- The errors of one frame. Nothing more is said of a frame without a name. -/
def frameErrors (taken : Taken) (index : Nat) (f : FrameEntry) : List ValidationError × Taken :=
  if f.name = "" then ([.emptyName index], taken)
  else
    let key := f.id.key
    let duplicate := if key ∈ taken.keys then [.duplicateFrame key] else []
    let (address, addresses) := addressErrors taken.addresses key f
    let zero :=
      if f.requestTimeoutSeconds = 0 then [.zeroValue ("frames." ++ key ++ ".request_timeout_secs")]
      else []
    -- Frames that have errors are compared with those after them all the same.
    (duplicate ++ address ++ zero, { keys := key :: taken.keys, addresses })

def framesErrors (taken : Taken) (index : Nat) : List FrameEntry → List ValidationError
  | [] => []
  | f :: rest =>
    let (errors, taken) := frameErrors taken index f
    errors ++ framesErrors taken (index + 1) rest

def errors? [Log.Patterns] (c : Config) : Option (List ValidationError) :=
  (levelErrors? c.logging.level).map fun level =>
    lifecycleErrors c.lifecycle ++ level ++ metricsErrors c.observability
      ++ framesErrors {} 0 c.frames

end FrameHost.Config
