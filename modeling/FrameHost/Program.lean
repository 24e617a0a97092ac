import FrameHost.CommandLine
import FrameHost.Config.Loading
import FrameHost.Host
import FrameHost.Log.Journal
import FrameHost.Net.SocketAddress

/-! What the program says of itself, and why it may not start. -/

set_option autoImplicit false

namespace FrameHost.Program

def target : String := "frame_host"

def metricsTarget : String := "frame_host::observability::metrics"

def version : String := "0.1.0"

def say (message : String) (fields : List (String × Log.Value)) : Log.Record :=
  { level := .info, target, message, fields }

def startingRecord (pid : Nat) : Log.Record :=
  say (CommandLine.program ++ " v" ++ version ++ " starting") [("pid", .count pid)]

def metricsRecord (address : Net.SocketAddress) : Log.Record :=
  { level := .info, target := metricsTarget, message := "Metrics exporter listening"
    fields := [("address", .text address.text)] }

def startedRecord (frames : Nat) : Log.Record := say "Frames started" [("frames", .count frames)]

def stoppedRecord (remaining : Nat) : Log.Record :=
  say "All frames stopped" [("remaining_ms", .count remaining)]

inductive Failure where
  | config (error : Config.LoadError)
  | logging (failure : Log.Journal.Failure)
  | metrics (reason : String)

def journalFailureShown : Log.Journal.Failure → String
  | .filter defect => Shown.wrapped "Filter" (Text.quoted defect.message)
  | .file path fault =>
    Shown.record "File" [("path", Text.quoted path), ("source", fault.shown)]

def Failure.shown : Failure → String
  | .config error => Shown.wrapped "Config" error.shown
  | .logging failure => Shown.wrapped "Logging" (journalFailureShown failure)
  | .metrics reason => Shown.wrapped "Metrics" (Text.quoted reason)

def Failure.message (f : Failure) : String := "Error: " ++ f.shown ++ "\n"

def metricsReason (reason : String) : String := "failed to create HTTP listener: " ++ reason

def metricsAddress? (c : Config.Observability) : Except Failure (Option Net.SocketAddress) :=
  if c.metricsEnabled then
    match Net.SocketAddress.parse? c.metricsAddress with
    | some address => .ok (some address)
    | none => .error (.metrics Net.SocketAddress.syntaxMessage)
  else .ok none

def configFrom (load : String → Except Config.LoadError Config) (path : Option String) :
    Except Failure Config :=
  match path with
  | none => .ok { ({} : Config) with frames := ({} : Config).hosted }
  | some path =>
    match load path with
    | .ok c => .ok { c with frames := c.hosted }
    | .error e => .error (.config e)

inductive Exit where
  | success | failure | usage
  deriving DecidableEq, Repr, Inhabited

def Exit.code : Exit → Nat
  | .success => 0
  | .failure => 1
  | .usage => 2

/-- The verdict of the shutdown decides how the program ends. -/
def Exit.ofReport (report : Shutdown.Report) : Exit :=
  if report.graceful then .success else .failure

end FrameHost.Program
