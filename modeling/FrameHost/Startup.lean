import FrameHost.Duration
import FrameHost.Registry

/-! Paced starts of frames.

A pass looks once at each frame that is registered when it begins, in the order of their
registration. It starts those that are not running and pauses after each start. A start is a
task of its own that begins its work some time later and that nobody waits for. -/

set_option autoImplicit false

namespace FrameHost.Startup

inductive Stage where
  | looking
  | pausing (wake : Nat)
  | returned
  deriving DecidableEq, Repr, Inhabited

structure Pass where
  remaining : List Nat
  dispatched : Nat := 0
  stage : Stage := .looking
  deriving DecidableEq, Repr, Inhabited

inductive RunPhase where
  | spawned | begun | ended
  deriving DecidableEq, Repr, Inhabited

structure Run where
  frame : Nat
  phase : RunPhase := .spawned
  deriving DecidableEq, Repr, Inhabited

structure Starts where
  passes : List Pass := []
  runs : List Run := []
  deriving DecidableEq, Inhabited

inductive Event where
  | call
  | turn (pass : Nat)
  | beginRun (run : Nat)
  | endRun (run : Nat)
  deriving DecidableEq

inductive Happening where
  | skipped (pass frame : Nat) (id : FrameId)
  | dispatched (pass run frame : Nat) (id : FrameId)
  | returned (pass count : Nat)
  | runBegan (run frame : Nat)
  | runEnded (run frame : Nat)
  deriving DecidableEq

def target : String := "frame_host::lifecycle::startup"

def Happening.record? : Happening → Option Log.Record
  | .skipped _ _ id => some
      { level := .debug, target, message := "Frame already running"
        fields := [("frame", .text id.text)] }
  | .dispatched _ _ _ id => some
      { level := .info, target, message := "Starting frame"
        fields := [("frame", .text id.text)] }
  | _ => none

namespace Starts

def setPass (s : Starts) (p : Nat) (pass : Pass) : Starts :=
  { s with passes := s.passes.set p pass }

def turn (registry : Registry) (running : Nat → Bool) (interval : Duration) (now : Nat)
    (s : Starts) (p : Nat) (pass : Pass) : Option (Starts × List Happening) :=
  match pass.remaining with
  | [] => some (s.setPass p { pass with stage := .returned }, [.returned p pass.dispatched])
  | frame :: rest => do
    let id ← registry.frames[frame]?
    -- The frame is asked at its turn. A run that was dispatched but has not begun does not count.
    if running frame then
      some (s.setPass p { pass with remaining := rest, stage := .looking }, [.skipped p frame id])
    else
      let pass' : Pass :=
        { remaining := rest
          dispatched := pass.dispatched + 1
          stage := .pausing (now + interval.millis) }
      some ({ s.setPass p pass' with runs := s.runs ++ [{ frame }] },
        [.dispatched p s.runs.length frame id])

def step (registry : Registry) (running : Nat → Bool) (interval : Duration) (now : Nat)
    (s : Starts) : Event → Option (Starts × List Happening)
  | .call => some ({ s with passes := s.passes ++ [{ remaining := List.range registry.size }] }, [])
  | .turn p => do
    let pass ← s.passes[p]?
    match pass.stage with
    | .looking => s.turn registry running interval now p pass
    | .pausing wake => if wake ≤ now then s.turn registry running interval now p pass else none
    | .returned => none
  | .beginRun r => do
    let run ← s.runs[r]?
    if run.phase = .spawned then
      some ({ s with runs := s.runs.set r { run with phase := .begun } }, [.runBegan r run.frame])
    else none
  | .endRun r => do
    let run ← s.runs[r]?
    if run.phase = .begun then
      some ({ s with runs := s.runs.set r { run with phase := .ended } }, [.runEnded r run.frame])
    else none

end Starts

end FrameHost.Startup
