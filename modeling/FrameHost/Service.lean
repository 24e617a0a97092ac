import FrameHost.Host.Logged
import FrameHost.Http.Frame
import FrameHost.Program

/-! The running program: a host that writes a log, and the HTTP frames that it hosts.

Every change is a pure step at a time; whoever runs the program decides when a step is due. -/

set_option autoImplicit false

namespace FrameHost

/-- The places of the frames are those of the host's registry. -/
structure Service where
  logged : Logged
  frames : List Http.Frame := []
  deriving Inhabited

namespace Service

def ofConfig (journal : Log.Journal) (c : Config.Lifecycle) : Service :=
  { logged := { host := Host.ofConfig c, journal } }

def host (s : Service) : Host := s.logged.host

def now (s : Service) : Nat := s.host.clock.now

def say (s : Service) (time : String) (r : Log.Record) : Service :=
  { s with logged := { s.logged with journal := s.logged.journal.say time r } }

def happen (s : Service) (time : String) (events : List Host.Event) : Service :=
  { s with logged := s.logged.steps time events }

def onFrame (s : Service) (time : String) (i : Nat) (e : Http.Event) : Service :=
  match s.frames[i]? with
  | none => s
  | some f =>
    match f.step s.now e with
    | none => s
    | some (f, happenings) =>
      let s := (happenings.filterMap f.record?).foldl (·.say time) { s with frames := s.frames.set i f }
      s.happen time [.flag i f.running]

def allOnFrame (s : Service) (time : String) (i : Nat) (events : List Http.Event) : Service :=
  events.foldl (fun s e => s.onFrame time i e) s

def register (s : Service) (time : String) (entries : List Config.FrameEntry) : Service :=
  let s := entries.foldl
    (fun s entry =>
      let frame : Http.Frame := { id := entry.id, bindAddress := entry.bindAddress }
      { s with frames := s.frames ++ [frame] }.happen time
        [.registration (.attempt entry.id), .registration (.publish 0)])
    s
  -- The finalizer says how much time is left.
  s.happen time [.shutdown 0 (.setFinalizer 0)]

inductive Turn where
  | started (run frame : Nat)
  | skipped
  | finished
  deriving DecidableEq, Repr, Inhabited

def turn (s : Service) (time : String) : Service × Turn :=
  match s.logged.step time (.startup (.turn 0)) with
  | some (logged, [.startup (.dispatched _ run frame _)]) =>
    ({ s with logged }, .started run frame)
  | some (logged, [.startup (.skipped _ _ _)]) => ({ s with logged }, .skipped)
  | some (logged, _) => ({ s with logged }, .finished)
  | none => (s, .finished)

def endPass (s : Service) (time : String) : Service :=
  let s := s.happen time [.armAfter 0]
  s.say time (Program.startedRecord s.host.starts.runs.length)

def call? (s : Service) : Option Shutdown.Call := (s.host.controllers[0]?).bind (·.call? 0)

def signal (s : Service) (time : String) : Service :=
  s.happen time [.trap .signal, .trap .call, .shutdown 0 (.acquire 0)]

def askToStop (s : Service) (time : String) (i : Nat) : Service :=
  match s.call? with
  | some call =>
    (s.happen time [.shutdown 0 (.invoke 0 i)]).allOnFrame time i [.callShutdown call.token, .take 0]
  | none => s

/-- How a frame has stopped, or that its time is up, if either is so. -/
def stopped? (s : Service) (time : String) (i : Nat) : Service × Option Bool :=
  let s := s.allOnFrame time i [.observe 0, .expire 0]
  let stop : Option Http.Stop := (s.frames[i]?).bind fun f => f.stops[0]?
  match stop with
  | some { stage := .returned graceful, .. } => (s.happen time [.shutdown 0 (.finish 0 i graceful)], some graceful)
  | _ => (s, none)

/-- All frames have stopped or used up their time: end the shutdown. -/
def conclude (s : Service) (time : String) : Service :=
  let s := s.happen time [.shutdown 0 (.passBarrier 0)]
  let remaining := (s.call?.map fun call => call.token.remaining s.now).getD 0
  (s.say time (Program.stoppedRecord remaining)).happen time
    -- Six steps close a sequence.
    (.shutdown 0 (.endFinalizer 0 .ok) :: List.replicate 6 (.shutdown 0 (.close 0)))

def exit? (s : Service) : Option Program.Exit :=
  ((s.host.controllers[0]?).bind (·.published)).map .ofReport

end Service

end FrameHost
