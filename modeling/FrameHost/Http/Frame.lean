import FrameHost.FrameId
import FrameHost.Token
import FrameHost.Log.Record
import FrameHost.Net.SocketAddress

/-! A frame that serves HTTP, and the handshake between its runs and its shutdowns.

A run claims the frame, binds its address, serves until it is told to stop and its connections
are drained, leaves, clears the address and releases the frame. A shutdown that finds the frame
running tells the current run to stop and waits; one that finds it stopped leaves its deadline
behind for a run that claims later. Claims and the first step of shutdowns happen under one
lock; the other steps interleave freely. -/

set_option autoImplicit false

namespace FrameHost.Http

inductive Failure where
  | address
  | bind (reason : String)
  | serve (reason : String)
  deriving DecidableEq, Repr

def Failure.message (address : String) : Failure → String
  | .address => "invalid bind address " ++ address ++ ": " ++ Net.SocketAddress.syntaxMessage
  | .bind reason => "failed to bind " ++ address ++ ": " ++ reason
  | .serve reason => "serve loop failed: " ++ reason

inductive RunStage where
  | spawned
  | claimed
  | serving
  | left
  | cleared
  | returned
  deriving DecidableEq, Repr, Inhabited

structure Run where
  stage : RunStage := .spawned
  told : Bool := false
  deriving DecidableEq, Repr, Inhabited

/-- How far a shutdown has come; a draining one remembers the run that it told to stop. -/
inductive StopStage where
  | called
  | draining (run : Nat)
  | returned (graceful : Bool)
  deriving DecidableEq, Repr, Inhabited

structure Stop where
  token : Token
  stage : StopStage := .called
  deriving DecidableEq, Repr, Inhabited

structure Frame where
  id : FrameId
  bindAddress : String
  running : Bool := false
  /-- The run that a shutdown would tell to stop. -/
  current : Option Nat := none
  /-- The deadline of a shutdown that found the frame stopped. -/
  pending : Option Nat := none
  localAddress : Option String := none
  runs : List Run := []
  stops : List Stop := []
  deriving Inhabited

inductive Event where
  | spawn
  | claim (run : Nat)
  | bind (run : Nat) (address : String)
  | fail (run : Nat) (failure : Failure)
  | drain (run : Nat)
  | clear (run : Nat)
  | release (run : Nat)
  | callShutdown (token : Token)
  | take (stop : Nat)
  | cancelToken (stop : Nat)
  | observe (stop : Nat)
  | expire (stop : Nat)
  deriving DecidableEq, Repr

def Event.givingUp (run : Nat) (failure : Failure) : List Event :=
  [.fail run failure, .clear run, .release run]

def Event.leaving (run : Nat) : List Event := [.drain run, .clear run, .release run]

inductive Happening where
  | alreadyRunning (run : Nat)
  | suppressed (run : Nat)
  | claimed (run : Nat)
  | serving (run : Nat) (address : String)
  | failed (run : Nat) (failure : Failure)
  | stopped (run : Nat)
  | released (run : Nat)
  | told (stop run : Nat)
  | drained (stop : Nat)
  | stillDraining (stop : Nat)
  | foundStopped (stop : Nat)
  deriving DecidableEq, Repr

def target : String := "frame_host::http::server"

namespace Frame

def record? (f : Frame) : Happening → Option Log.Record
  | .alreadyRunning _ => some (say .warn "Frame is already running" [])
  | .suppressed _ => some (say .info "Frame stopped before it started serving" [])
  | .serving _ address => some (say .info "Frame serving" [("address", .text address)])
  | .failed _ failure =>
    some (say .error "Frame failed" [("error", .text (failure.message f.bindAddress))])
  | .stopped _ => some (say .info "Frame stopped" [])
  | .stillDraining _ => some (say .warn "Frame still draining at the shutdown deadline" [])
  | _ => none
where
  say (level : Log.Level) (message : String) (more : List (String × Log.Value)) : Log.Record :=
    { level, target, message, fields := ("frame", .text f.id.text) :: more }

def setRun (f : Frame) (r : Nat) (run : Run) : Frame := { f with runs := f.runs.set r run }

def setStop (f : Frame) (s : Nat) (stop : Stop) : Frame := { f with stops := f.stops.set s stop }

def tell (f : Frame) : Frame :=
  match f.current with
  | some r => { f with runs := f.runs.modify r fun run => { run with told := true } }
  | none => f

def claim (f : Frame) (now : Nat) (r : Nat) (run : Run) : Frame × List Happening :=
  if f.running then (f.setRun r { run with stage := .returned }, [.alreadyRunning r])
  else if f.pending.any (now < ·) then
    -- The deadline is used up by the first run that it suppresses.
    ({ f.setRun r { run with stage := .returned } with pending := none }, [.suppressed r])
  else
    -- The frame counts as running from here, before its address is bound.
    ({ f.setRun r { run with stage := .claimed } with
        pending := none, current := some r, running := true }, [.claimed r])

def take (f : Frame) (s : Nat) (stop : Stop) : Frame × List Happening :=
  match f.running, f.current with
  | true, some r =>
    ({ (f.setStop s { stop with stage := .draining r }).tell with pending := none }, [.told s r])
  | _, _ =>
    ({ f.setStop s { stop with stage := .returned true } with
        pending := some stop.token.deadline }, [.foundStopped s])

def step (now : Nat) (f : Frame) : Event → Option (Frame × List Happening)
  | .spawn => some ({ f with runs := f.runs ++ [{}] }, [])
  | .claim r => do
    let run ← f.runs[r]?
    if run.stage = .spawned then some (f.claim now r run) else none
  | .bind r address => do
    let run ← f.runs[r]?
    if run.stage = .claimed then
      some ({ f.setRun r { run with stage := .serving } with localAddress := some address },
        [.serving r address])
    else none
  | .fail r failure => do
    let run ← f.runs[r]?
    if run.stage = .claimed ∨ run.stage = .serving then
      some (f.setRun r { run with stage := .left }, [.failed r failure])
    else none
  | .drain r => do
    let run ← f.runs[r]?
    if run.stage = .serving ∧ run.told then
      some (f.setRun r { run with stage := .left }, [.stopped r])
    else none
  | .clear r => do
    let run ← f.runs[r]?
    if run.stage = .left then
      some ({ f.setRun r { run with stage := .cleared } with localAddress := none }, [])
    else none
  | .release r => do
    let run ← f.runs[r]?
    if run.stage = .cleared then
      some ({ f.setRun r { run with stage := .returned } with running := false }, [.released r])
    else none
  | .callShutdown token => some ({ f with stops := f.stops ++ [{ token }] }, [])
  | .take s => do
    let stop ← f.stops[s]?
    if stop.stage = .called then some (f.take s stop) else none
  | .cancelToken s => do
    let stop ← f.stops[s]?
    some (f.setStop s { stop with token := stop.token.cancel }, [])
  | .observe s => do
    let stop ← f.stops[s]?
    match stop.stage with
    | .draining _ =>
      if f.running then none
      else some (f.setStop s { stop with stage := .returned true }, [.drained s])
    | _ => none
  | .expire s => do
    let stop ← f.stops[s]?
    match stop.stage with
    | .draining _ =>
      -- Whether the frame still runs is not asked again.
      if stop.token.fired now then
        some (f.setStop s { stop with stage := .returned false }, [.stillDraining s])
      else none
    | _ => none

def shown (f : Frame) : String :=
  Shown.record "HttpFrame" [
    ("id", f.id.shown),
    ("bind_address", Text.quoted f.bindAddress),
    ("running", Shown.boolean f.running)]

end Frame

end FrameHost.Http
