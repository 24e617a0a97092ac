/-! Frames that behave as they are told to. -/

set_option autoImplicit false

namespace FrameHost.Session

inductive RunKind where
  | returns | panics | serves
  deriving DecidableEq, Repr, Inhabited

structure Script where
  graceful : Bool := true
  delay : Option Nat := none
  ignoresToken : Bool := false
  panics : Bool := false
  run : RunKind := .serves
  running : Bool := false
  deriving DecidableEq, Repr, Inhabited

def Script.panicMessage (name : String) : String := "frame " ++ name ++ " exploded"

end FrameHost.Session
