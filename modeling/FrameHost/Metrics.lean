/-! What the metrics of a host have come to. A metric that was never recorded is absent. -/

set_option autoImplicit false

namespace FrameHost

structure Metrics where
  registered : Option Nat := none
  /-- Starts by key, in the order of the first start of each. -/
  starts : List (String × Nat) := []
  graceful : Nat := 0
  abrupt : Nat := 0
  deriving DecidableEq, Repr, Inhabited

namespace Metrics

def increment (key : String) : List (String × Nat) → List (String × Nat)
  | [] => [(key, 1)]
  | (k, n) :: rest => if k = key then (k, n + 1) :: rest else (k, n) :: increment key rest

def recordRegistered (m : Metrics) (count : Nat) : Metrics := { m with registered := some count }

def recordStart (m : Metrics) (key : String) : Metrics := { m with starts := increment key m.starts }

def recordShutdown (m : Metrics) (graceful : Bool) : Metrics :=
  if graceful then { m with graceful := m.graceful + 1 } else { m with abrupt := m.abrupt + 1 }

def entries (m : Metrics) : List (String × Nat) :=
  (m.registered.map fun n => ("frame_host_frames_registered", n)).toList
    ++ m.starts.map (fun (key, n) => ("frame_host_frame_starts_total|frame=" ++ key, n))
    ++ (if 0 < m.graceful then [("frame_host_shutdowns_total|graceful=true", m.graceful)] else [])
    ++ (if 0 < m.abrupt then [("frame_host_shutdowns_total|graceful=false", m.abrupt)] else [])

end Metrics

end FrameHost
