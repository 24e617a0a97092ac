import FrameHost.Config
import FrameHost.Document

/-! Writing a configuration as a document. Every field is written, also those that equal the
value that stands in for them. -/

set_option autoImplicit false

namespace FrameHost.Config

def countDocument (n : UInt64) : Document := .integer n.toNat

def optionalDocument : Option String → Document
  | some s => .text s
  | none => .null

def Lifecycle.toDocument (l : Lifecycle) : Document :=
  .table [
    ("start_interval_ms", countDocument l.startIntervalMillis),
    ("shutdown_timeout_secs", countDocument l.shutdownTimeoutSeconds)]

def Logging.toDocument (l : Logging) : Document :=
  .table [
    ("level", .text l.level),
    ("format", .text l.format.name),
    ("file", optionalDocument l.file)]

def Observability.toDocument (o : Observability) : Document :=
  .table [
    ("metrics_enabled", .boolean o.metricsEnabled),
    ("metrics_address", .text o.metricsAddress)]

def FrameEntry.toDocument (f : FrameEntry) : Document :=
  .table [
    ("name", .text f.name),
    ("version", optionalDocument f.version),
    ("bind_address", .text f.bindAddress),
    ("request_timeout_secs", countDocument f.requestTimeoutSeconds)]

def toDocument (c : Config) : Document :=
  .table [
    ("lifecycle", c.lifecycle.toDocument),
    ("logging", c.logging.toDocument),
    ("observability", c.observability.toDocument),
    ("frames", .list (c.frames.map FrameEntry.toDocument))]

end FrameHost.Config
