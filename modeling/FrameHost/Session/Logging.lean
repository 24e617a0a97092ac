import FrameHost.Config.Reading
import FrameHost.Host.Logged
import FrameHost.Log.Pattern
import FrameHost.Session.Marks
import FrameHost.Session.Script

/-! A caller that works with a log, one step after another, and reads its file.

Times differ from run to run; readers see a mark in the place of each. -/

set_option autoImplicit false

namespace FrameHost.Session.Logging

open FrameHost.Log (Level Record Journal)
open Marks (someTime)

inductive Step where
  | say (r : Record)
  /-- Say the same at every level for several targets. -/
  | sayEverywhere
  | register (id : FrameId) (script : Script)
  | shutdown
  | close
  | guard
  | read
  | unknown (name : String)
  deriving Inhabited

inductive Answer where
  | ok
  | boolean (b : Bool)
  | guard (ours disabled : String)
  | content (text : Option String)
  | noFile
  | unknown (name : String)
  deriving DecidableEq, Repr, Inhabited

inductive Failure where
  | config (fault : Config.Fault)
  | journal (failure : Journal.Failure)

def readable (bytes : Bytes) : String := Marks.all [Marks.times] (Text.ofBytes bytes)

structure State where
  logged : Logged
  scripts : List (FrameId × Script) := []
  deriving Inhabited

def everyTarget : List String :=
  ["frame_host", "frame_host::registry", "frame_host::http::server", "frame_hosting", "other"]

def record (target : String) (level : Level) (message : String) (n : Int) (who : String) : Record :=
  { level, target, message, fields := [("n", .integer n), ("who", .text who)] }

def guardShown (active : Bool) : String :=
  Shown.record "LogGuard" [("active", Shown.boolean active)]

def timeout : Duration := .ofSeconds 60

def stopEnd (script : Script) : Nat × Bool :=
  let delay := script.delay.getD 0
  if script.ignoresToken || delay ≤ timeout.millis then (delay, true) else (timeout.millis, false)

def stopEvent (controller frame : Nat) (id : FrameId) (script : Script) : Host.Event :=
  if script.panics then .shutdown controller (.panic 0 frame (Script.panicMessage id.text))
  else .shutdown controller (.finish 0 frame (script.graceful && (stopEnd script).2))

def shutdownEvents (controller : Nat) (scripts : List (FrameId × Script)) : List Host.Event :=
  let on (e : Shutdown.Event) : Host.Event := .shutdown controller e
  let invoked := (List.range scripts.length).map fun frame => on (.invoke 0 frame)
  let byEnd := scripts.zipIdx.mergeSort fun a b => (stopEnd a.1.2).1 ≤ (stopEnd b.1.2).1
  let ended := byEnd.map fun ((id, script), frame) => stopEvent controller frame id script
  [.addController timeout, on (.request none), on (.acquire 0)] ++ invoked ++ ended
    ++ [on (.passBarrier 0)] ++ List.replicate 6 (on (.close 0))

namespace State

def journal (s : State) : Journal := s.logged.journal

def hasFile (s : State) : Bool := s.journal.location.isSome

def onJournal (s : State) (f : Journal → Journal) : State :=
  { s with logged := { s.logged with journal := f s.journal } }

def say (s : State) (r : Record) : State := s.onJournal (·.say someTime r)

def register (s : State) (id : FrameId) (script : Script) : State × Answer :=
  match s.logged.step someTime (.registration (.attempt id)) with
  | some (logged, [.registration (.admitted ..)]) =>
    ({ logged := logged.steps someTime [.registration (.publish 0)]
       scripts := s.scripts ++ [(id, script)] }, .boolean true)
  | some (logged, _) => ({ s with logged }, .boolean false)
  | none => (s, .boolean false)

def shutdown (s : State) : State × Answer :=
  let controller := s.logged.host.controllers.length
  let logged := s.logged.steps someTime (shutdownEvents controller s.scripts)
  let report := (logged.host.controllers[controller]?).bind (·.published)
  ({ s with logged }, .boolean (report.any (·.graceful)))

def take (s : State) : Step → State × Answer
  | .say r => if s.hasFile then (s.say r, .ok) else (s, .noFile)
  | .sayEverywhere =>
    if s.hasFile then
      let records := everyTarget.flatMap fun target =>
        Level.all.map fun level => record target level "m" 0 "w"
      (records.foldl say s, .ok)
    else (s, .noFile)
  | .register id script => if s.hasFile then s.register id script else (s, .noFile)
  | .shutdown => if s.hasFile then s.shutdown else (s, .noFile)
  | .close => (s.onJournal Journal.close, .ok)
  | .guard => (s, .guard (guardShown true) (guardShown false))
  | .read => (s, .content (if s.hasFile then some (readable s.journal.sink.content) else none))
  | .unknown name => (s, .unknown name)

end State

/-- Set up a log and take some steps with it. What the file holds in the end comes last. -/
def run (files : List (String × String)) (environment : Option String) (config : Document)
    (steps : List Step) : Except Failure (List Answer × Option String) := do
  let config ← (Config.loggingShape.read .json config).mapError Failure.config
  let (journal, _) ← (Journal.setUp (.ofFiles files) environment config).mapError Failure.journal
  let host := Host.ofConfig {}
  let (s, answers) := steps.foldl
    (fun (s, answers) step =>
      let (s, answer) := State.take s step
      (s, answers ++ [answer]))
    (({ logged := { host, journal } } : State), [])
  return (answers, if s.hasFile then some (readable s.journal.sink.final) else none)

end FrameHost.Session.Logging
