import FrameHost.Duration
import FrameHost.FrameId

/-! The configuration of a host and the values that stand in for what it leaves out. -/

set_option autoImplicit false

namespace FrameHost.Config

structure Lifecycle where
  startIntervalMillis : UInt64 := 1000
  shutdownTimeoutSeconds : UInt64 := 60
  deriving DecidableEq, Repr, Inhabited

def Lifecycle.startInterval (l : Lifecycle) : Duration := ⟨l.startIntervalMillis.toNat⟩

def Lifecycle.shutdownTimeout (l : Lifecycle) : Duration :=
  .ofSeconds l.shutdownTimeoutSeconds.toNat

inductive LogFormat where
  | text | json
  deriving DecidableEq, Repr, Inhabited

def LogFormat.name : LogFormat → String
  | .text => "text"
  | .json => "json"

structure Logging where
  level : String := "info"
  format : LogFormat := .text
  file : Option String := none
  deriving DecidableEq, Repr, Inhabited

structure Observability where
  metricsEnabled : Bool := false
  metricsAddress : String := "127.0.0.1:9090"
  deriving DecidableEq, Repr, Inhabited

structure FrameEntry where
  name : String
  version : Option String := none
  bindAddress : String
  requestTimeoutSeconds : UInt64 := 30
  deriving DecidableEq, Repr, Inhabited

namespace FrameEntry

def id (f : FrameEntry) : FrameId := .ofParts f.name f.version

def requestTimeout (f : FrameEntry) : Duration := .ofSeconds f.requestTimeoutSeconds.toNat

/-- The frame of a host that lists none. -/
def fallback : FrameEntry := { name := "default", bindAddress := "127.0.0.1:8080" }

end FrameEntry

end FrameHost.Config

namespace FrameHost

structure Config where
  lifecycle : Config.Lifecycle := {}
  logging : Config.Logging := {}
  observability : Config.Observability := {}
  frames : List Config.FrameEntry := []
  deriving DecidableEq, Repr, Inhabited

def Config.hosted (c : Config) : List Config.FrameEntry :=
  if c.frames.isEmpty then [.fallback] else c.frames

end FrameHost
