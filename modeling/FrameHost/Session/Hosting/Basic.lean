import FrameHost.Host
import FrameHost.Http.Frame
import FrameHost.Session.Schedule
import FrameHost.Session.Script

/-! What a caller asks of a host, the tasks that come of it, and what they note down. -/

set_option autoImplicit false

namespace FrameHost.Session.Hosting

inductive Member where
  | scripted (script : Script) (runs shutdowns : Nat)
  | http (frame : Http.Frame)
  deriving Inhabited

inductive FinalizerKind where
  | ok | fail | panic | wait | refuse
  deriving DecidableEq, Repr, Inhabited

structure Finalizer where
  kind : FinalizerKind
  tag : String
  delay : Option Nat := none
  deriving DecidableEq, Repr, Inhabited

inductive Step where
  | register (id : FrameId) (member : Member) (fatal : Bool)
  | frames
  | frame (name : String) (version : Option String)
  | isRunning (name : String) (version : Option String)
  | snapshot
  | snapshots
  | startAll
  | sleep (millis : Nat)
  | setFinalizer (finalizer : Finalizer)
  | shutdown (timeout : Option Duration)
  | signal
  | armed
  | arm (timeout : Duration)
  | wait
  | token
  | show
  | setRunning (frame : Nat) (running : Bool)
  | runFrame (frame : Nat)
  | stopFrame (frame : Nat) (timeout : Nat)
  | stats
  /-- Calls made by tasks of their own, each after a pause. -/
  | concurrent (calls : List (Nat × Step))
  | unknown (name : String)
  deriving Inhabited

inductive Standing where
  | scripted (key : String) (running : Bool) (runs shutdowns : Nat)
  | http (key : String) (running : Bool) (bindAddress : String) (bound : Bool) (shown : String)

inductive Answer where
  | done
  | ok
  | refused (error : RegistrationError)
  | fatal (error : RegistrationError)
  | noFrame
  | unknown (name : String)
  | number (n : Nat)
  | boolean (b : Bool)
  | text (s : Option String)
  | frames (frames : List (String × Bool))
  | snapshots (keys : List (List String))
  | report (r : Shutdown.Report)
  | overflow
  | nothing
  | armed (isArmed : Bool) (built : Nat)
  | arming (timeout : Nat) (hasFinalizer : Bool) (shown : String) (armed : Bool)
  | token (state : Option (Bool × Nat))
  | stats (frames : List Standing)
  | panicked (message : String)
  | concurrent (calls : List (Nat × Nat × Answer))
  deriving Inhabited

inductive Stopping where
  | called
  | delaying (due : Nat)
  deriving DecidableEq, Repr, Inhabited

/-- How far a finalizer has come within a shutdown. Finalizers are known by their numbers. -/
inductive Finalizing where
  | idle
  | delaying (finalizer due : Nat)
  | watching (finalizer : Nat)
  deriving DecidableEq, Repr, Inhabited

inductive Stage where
  | pausing (due : Nat)
  | ready
  | sleeping (due : Nat)
  | starting (pass : Nat)
  | trapped
  | shutting (controller call : Nat) (finalizing : Finalizing)
  | waiting (waiter due : Nat)
  | running (due : Nat)
  | stopping (frame : Nat) (token : Token) (stage : Stopping)
  | joining (tasks : List Nat)
  | done (answer : Answer)
  deriving Inhabited

inductive Work where
  | run (run : Nat)
  | stop (controller call frame : Nat) (stage : Stopping)
  | caller (step : Step) (pause : Nat) (began : Nat) (ended : Nat) (stage : Stage)
  | finished
  deriving Inhabited

structure Task where
  parent : Option Nat
  work : Work
  deriving Inhabited

structure Call where
  time : Nat
  frame : Option Nat
  text : String
  deriving DecidableEq, Repr, Inhabited

/-- A record, or the mark that a finalizer leaves when it begins. -/
inductive Entry where
  | record (time : Nat) (r : Log.Record)
  | finalizer (time : Nat)

/-- Task 0 is the main caller. -/
structure State where
  host : Host
  members : List Member := []
  finalizers : List Finalizer := []
  finalized : Option (Nat × Nat) := none
  snapshots : List (List String) := []
  schedule : Schedule := {}
  tasks : List Task := []
  calls : List Call := []
  log : List Entry := []
  deriving Inhabited

namespace State

def now (s : State) : Nat := s.schedule.now

def say (s : State) (r : Log.Record) : State := { s with log := s.log ++ [.record s.now r] }

def note (s : State) (frame : Option Nat) (text : String) : State :=
  { s with calls := s.calls ++ [{ time := s.now, frame, text }] }

def wake (s : State) (task : Nat) : State := { s with schedule := s.schedule.wake task }

def setTimer (s : State) (task due : Nat) : State :=
  { s with schedule := s.schedule.setTimer task due }

def spawn (s : State) (parent : Option Nat) (work : Work) : State :=
  ({ s with tasks := s.tasks ++ [Task.mk parent work] }).wake s.tasks.length

def setWork (s : State) (task : Nat) (work : Work) : State :=
  { s with tasks := s.tasks.modify task fun t => { t with work } }

def finish (s : State) (task : Nat) (work : Work) : State :=
  let s := s.setWork task work
  match (s.tasks[task]?).bind Task.parent with
  | some parent => s.wake parent
  | none => s

def tasksWhere (s : State) (fits : Work → Bool) : List Nat :=
  (s.tasks.zipIdx.filter fun (t, _) => fits t.work).map (·.2)

def wakeWhere (s : State) (fits : Work → Bool) : State := (s.tasksWhere fits).foldl wake s

def waitsForReport : Work → Bool
  | .caller _ _ _ _ (.waiting ..) => true
  | _ => false

def waitsForTrigger : Work → Bool
  | .caller _ _ _ _ .trapped => true
  | _ => false

def makesCall (controller call : Nat) : Work → Bool
  | .caller _ _ _ _ (.shutting c k _) => c = controller && k = call
  | _ => false

def wakeFor (s : State) : Host.Happening → State
  | .shutdown 0 (.published ..) => s.wakeWhere waitsForReport
  | .shutdown c (.released _) =>
    match (s.host.controllers[c]?).bind (·.waiting.head?) with
    | some k => s.wakeWhere (makesCall c k)
    | none => s
  | _ => s

def apply (s : State) (e : Host.Event) : State × List Host.Happening :=
  let host := { s.host with clock := { s.host.clock with now := s.now } }
  match host.step e with
  | none => (s, [])
  | some (host, happenings) =>
    let s := happenings.foldl
      (fun s h =>
        match h.record? with
        | some r => s.say r
        | none => s)
      { s with host }
    (happenings.foldl wakeFor s, happenings)

def flag (s : State) (frame : Nat) (running : Bool) : State := (s.apply (.flag frame running)).1

def idAt (s : State) (frame : Nat) : FrameId := (s.host.registry.frames[frame]?).getD default

end State

end FrameHost.Session.Hosting
