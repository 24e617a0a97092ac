import FrameHost.Log.Record
import FrameHost.Text.Shown

/-! The trap that turns a termination signal into a shutdown.

It is armed at most once, for the controller of the first call. Its trigger is built then; when
the trigger has resolved the trap asks that controller for one shutdown. -/

set_option autoImplicit false

namespace FrameHost

structure Trap where
  armed : Bool := false
  built : Nat := 0
  /-- Whether the trigger has resolved, or will at once when it is built. -/
  signalled : Bool := false
  controller : Option Nat := none
  called : Bool := false
  deriving DecidableEq, Repr, Inhabited

namespace Trap

inductive Event where
  | arm (controller : Nat)
  | signal
  | call
  deriving DecidableEq, Repr

inductive Happening where
  | refused
  | built
  | armed (controller : Nat)
  | received (controller : Nat)
  deriving DecidableEq, Repr

def target : String := "frame_host::lifecycle::signals"

def Happening.record? : Happening → Option Log.Record
  | .armed _ => some { level := .debug, target, message := "Signal trap armed", fields := [] }
  | .received _ => some
      { level := .info, target, message := "Termination signal received", fields := [] }
  | _ => none

def step (t : Trap) : Event → Option (Trap × List Happening)
  | .arm controller =>
    if t.armed then some (t, [.refused])
    else
      some ({ t with armed := true, built := t.built + 1, controller := some controller },
        [.built, .armed controller])
  | .signal => some ({ t with signalled := true }, [])
  | .call =>
    match t.controller with
    | some controller =>
      if t.signalled && !t.called then some ({ t with called := true }, [.received controller])
      else none
    | none => none

def shown (t : Trap) : String :=
  Shown.record "SignalTrap" [("armed", Shown.boolean t.armed)]

end Trap

end FrameHost
