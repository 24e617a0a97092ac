import FrameHost.Http.Frame
import FrameHost.Net.Binding

/-! A caller that works with one HTTP frame on a machine that stands alone.

Runs and shutdowns in the background go on whenever the caller waits; as nothing can be
reached, no connection ever holds up a frame that drains. -/

set_option autoImplicit false

namespace FrameHost.Session.Serving

inductive Step where
  | run
  /-- Run the frame, and drop the run if it goes on for too long. -/
  | runInline
  /-- Start a run, which has its first turn when the caller waits next. -/
  | spawnRun
  | joinRun
  | request
  | begin (id : Nat)
  | finish (id : Nat)
  | release
  | shutdown (millis : Nat)
  | shutdownCancelled
  | beginShutdown (id millis : Nat)
  | finishShutdown (id : Nat)
  | sleep (millis : Nat)
  | show
  | identity
  | unknown (name : String)
  deriving DecidableEq, Repr, Inhabited

inductive Answer where
  | done
  | returned (b : Bool)
  | notStarted
  | notBound
  | unreachable
  | entered (b : Bool)
  | noRequest
  | graceful (b : Bool)
  | noShutdown
  | text (s : String)
  | identity (key address : String)
  | unknown (name : String)
  deriving DecidableEq, Repr, Inhabited

inductive Place where
  | address (text : String)
  | occupied
  deriving DecidableEq, Repr, Inhabited

namespace Place

def text : Place → String
  | .address text => text
  | .occupied => "127.0.0.1:" ++ Net.somePort

def bind : Place → Except Http.Failure String
  | .occupied => .error (.bind Net.Refusal.taken.message)
  | .address text =>
    match Net.SocketAddress.parse? text with
    | none => .error .address
    | some a =>
      match a.bound? [] with
      | .ok a => .ok a.boundText
      | .error e => .error (.bind e.message)

end Place

structure State where
  place : Place
  frame : Http.Frame
  now : Nat := 0
  /-- The run that was started last, those dropped while they served aside. -/
  latest : Option Nat := none
  dropped : List Nat := []
  requests : List Nat := []
  stops : List (Nat × Nat) := []
  log : List Log.Record := []
  deriving Inhabited

namespace State

def apply (s : State) (e : Http.Event) : State :=
  match s.frame.step s.now e with
  | none => s
  | some (frame, happenings) =>
    { s with frame, log := s.log ++ happenings.filterMap frame.record? }

def applyAll (s : State) (events : List Http.Event) : State := events.foldl apply s

def runStage (s : State) (r : Nat) : Http.RunStage := ((s.frame.runs[r]?).getD {}).stage

def beginRun (s : State) (r : Nat) : State :=
  let s := s.apply (.claim r)
  if s.runStage r ≠ .claimed then s
  else
    match s.place.bind with
    | .ok address => s.apply (.bind r address)
    | .error failure => s.applyAll (Http.Event.givingUp r failure)

def runs (s : State) : List Nat := List.range s.frame.runs.length

def beginRuns (s : State) : State :=
  s.runs.foldl (fun s r => if s.runStage r = .spawned then s.beginRun r else s) s

/-- Runs that have been told to stop end, unless nobody runs them any more. -/
def endRuns (s : State) : State :=
  s.runs.foldl
    (fun s r =>
      if r ∈ s.dropped then s else s.applyAll (Http.Event.leaving r))
    s

def look (s : State) : State :=
  (List.range s.frame.stops.length).foldl (fun s k => (s.apply (.observe k)).apply (.expire k)) s

def settle (s : State) : State := s.beginRuns.endRuns.look

def wait (s : State) (due : Nat) : State := ({ s.settle with now := max s.now due }).settle

def call (s : State) (token : Token) : State × Nat :=
  let k := s.frame.stops.length
  ((s.apply (.callShutdown token)).apply (.take k), k)

def result? (s : State) (k : Nat) : Option Bool :=
  match s.frame.stops[k]? with
  | some { stage := .returned graceful, .. } => some graceful
  | _ => none

def await (s : State) (k : Nat) : State × Bool :=
  match s.result? k with
  | some graceful => (s, graceful)
  | none =>
    let s := s.settle
    match s.result? k with
    | some graceful => (s, graceful)
    | none =>
      -- There is a result when the token fires at the latest.
      let s := s.wait (((s.frame.stops[k]?).map (·.token.deadline)).getD s.now)
      (s, (s.result? k).getD false)

def spawn (s : State) : State × Nat := (s.apply .spawn, s.frame.runs.length)

def inlinePatience : Nat := 2000

def joinPatience : Nat := 3000

def cancelledTime : Nat := 60000

def runInline (s : State) : State × Answer :=
  let (s, r) := s.spawn
  let s := s.beginRun r
  if s.runStage r = .returned then (s, .returned true)
  else
    let s := s.wait (s.now + inlinePatience)
    if s.runStage r = .returned then (s, .returned true)
    else ({ s with dropped := r :: s.dropped }, .returned false)

def joinRun (s : State) : State × Answer :=
  match s.latest with
  | none => (s, .notStarted)
  | some r =>
    let s := s.settle
    let s := if s.runStage r = .returned then s else s.wait (s.now + joinPatience)
    (s, .returned (s.runStage r = .returned))

def perform (s : State) : Step → State × Answer
  | .run =>
    let (s, r) := s.spawn
    let s := s.settle
    ({ s with latest := some r }, .returned (s.runStage r = .returned))
  | .runInline => s.runInline
  | .spawnRun =>
    let (s, r) := s.spawn
    ({ s with latest := some r }, .done)
  | .joinRun => s.joinRun
  | .request => (s, if s.frame.localAddress.isSome then .unreachable else .notBound)
  | .begin id =>
    if s.frame.localAddress.isSome then ({ s with requests := id :: s.requests }, .entered false)
    else (s, .notBound)
  | .finish id =>
    if id ∈ s.requests then ({ s with requests := s.requests.filter (· ≠ id) }, .unreachable)
    else (s, .noRequest)
  | .release => (s, .done)
  | .shutdown millis =>
    let (s, k) := s.call { deadline := s.now + millis }
    let (s, graceful) := s.await k
    (s, .graceful graceful)
  | .shutdownCancelled =>
    let (s, k) := s.call { deadline := s.now + cancelledTime, cancelled := true }
    -- The token has fired before anything else can happen.
    let (s, graceful) := (s.apply (.expire k)).await k
    (s, .graceful graceful)
  | .beginShutdown id millis =>
    let (s, k) := s.settle.call { deadline := s.now + millis }
    ({ s with stops := (id, k) :: s.stops.filter fun stop => stop.1 ≠ id }, .done)
  | .finishShutdown id =>
    match s.stops.lookup id with
    | none => (s, .noShutdown)
    | some k =>
      let (s, graceful) := s.await k
      ({ s with stops := s.stops.filter fun stop => stop.1 ≠ id }, .graceful graceful)
  | .sleep millis => (s.wait (s.now + millis), .done)
  | .show => (s, .text s.frame.shown)
  | .identity => (s, .identity s.frame.id.key s.frame.bindAddress)
  | .unknown name => (s, .unknown name)

end State

def Step.settles : Step → Bool
  | .run | .spawnRun | .sleep _ | .show | .identity => false
  | _ => true

def settlingTime : Nat := 5

structure Result where
  answer : Answer
  running : Bool
  bound : Bool
  log : List Log.Record

def State.step (s : State) (step : Step) : State × Result :=
  let (s, answer) := s.perform step
  let s := if step.settles then s.wait (s.now + settlingTime) else s
  ({ s with log := [] },
    { answer, running := s.frame.running, bound := s.frame.localAddress.isSome, log := s.log })

def run (id : FrameId) (place : Place) (steps : List Step) : List Result :=
  (steps.foldl
    (fun (s, results) step =>
      let (s, result) := State.step s step
      (s, results ++ [result]))
    ({ place, frame := { id, bindAddress := place.text } : State }, [])).2

end FrameHost.Session.Serving
