import FrameHost.Config
import FrameHost.Shutdown
import FrameHost.Startup
import FrameHost.Trap
import FrameHost.Metrics
import FrameHost.Registrar

/-! A host: frames in a registry, passes that start them, controllers that shut them down, a
trap for signals, and callers that wait for a shutdown.

Everything that can happen is an event, and a list of events is one interleaving. The frames
own their running flags: a flag changes by an event of its own. -/

set_option autoImplicit false

namespace FrameHost

/-- The first controller is the host's own; others share its registry. -/
structure Host where
  clock : Clock := .fresh
  registrar : Registrar := {}
  running : List Bool := []
  startInterval : Duration
  starts : Startup.Starts := {}
  trap : Trap := {}
  controllers : List Shutdown.Controller
  waits : List (Option Shutdown.Report) := []
  metrics : Metrics := {}
  deriving Inhabited

namespace Host

inductive Event where
  | registration (event : Registrar.Event)
  | flag (frame : Nat) (running : Bool)
  | startup (event : Startup.Event)
  /-- A pass that has returned arms the trap for the host's own controller. -/
  | armAfter (pass : Nat)
  | trap (event : Trap.Event)
  | addController (timeout : Duration)
  | shutdown (controller : Nat) (event : Shutdown.Event)
  | wait
  | look (waiter : Nat)
  | advance (now : Nat)

inductive Happening where
  | registration (happening : Registrar.Happening)
  | startup (happening : Startup.Happening)
  | trap (happening : Trap.Happening)
  | shutdown (controller : Nat) (happening : Shutdown.Happening)
  | reported (waiter : Nat) (report : Shutdown.Report)

def Happening.record? : Happening → Option Log.Record
  | .registration (.admitted key count) => some (Registry.registeredRecord key count)
  | .startup h => h.record?
  | .trap h => h.record?
  | .shutdown _ h => h.record?
  | _ => none

def new (startInterval shutdownTimeout : Duration) : Host :=
  { startInterval, controllers := [{ defaultTimeout := shutdownTimeout }] }

def ofConfig (c : Config.Lifecycle) : Host := new c.startInterval c.shutdownTimeout

def registry (h : Host) : Registry := h.registrar.registry

def isRunningAt (h : Host) (frame : Nat) : Bool := h.running.getD frame false

def isRunning (h : Host) (name : String) (version : Option String) : Bool :=
  (h.registry.place? name version).any h.isRunningAt

def count (m : Metrics) : Happening → Metrics
  | .registration (.published n) => m.recordRegistered n
  | .startup (.dispatched _ _ _ id) => m.recordStart id.key
  | .shutdown _ (.counted _ graceful) => m.recordShutdown graceful
  | _ => m

def stepTrap (h : Host) (e : Trap.Event) : Option (Host × List Happening) := do
  let (trap, happenings) ← h.trap.step e
  let called := { h with trap }
  match happenings with
  | [.received c] =>
    let controller ← h.controllers[c]?
    -- The trap asks for a shutdown within the default time.
    let (controller, more) ← controller.step h.registry h.clock (.request none)
    some ({ called with controllers := h.controllers.set c controller },
      .trap (.received c) :: more.map (.shutdown c))
  | _ => some (called, happenings.map .trap)

/-- One event without its effect on the metrics. -/
def stepParts (h : Host) : Event → Option (Host × List Happening)
  | .registration e => do
    let (registrar, happenings) ← h.registrar.step e
    -- A frame that has just been registered is not running.
    let running := h.running ++ List.replicate (registrar.registry.size - h.running.length) false
    some ({ h with registrar, running }, happenings.map .registration)
  | .flag frame running => some ({ h with running := h.running.set frame running }, [])
  | .startup e => do
    let (starts, happenings) ←
      h.starts.step h.registry h.isRunningAt h.startInterval h.clock.now e
    some ({ h with starts }, happenings.map .startup)
  | .armAfter p => do
    let pass ← h.starts.passes[p]?
    if pass.stage = .returned then h.stepTrap (.arm 0) else none
  | .trap e => h.stepTrap e
  | .addController defaultTimeout =>
    some ({ h with controllers := h.controllers ++ [{ defaultTimeout }] }, [])
  | .shutdown c e => do
    let controller ← h.controllers[c]?
    let (controller, happenings) ← controller.step h.registry h.clock e
    some ({ h with controllers := h.controllers.set c controller },
      happenings.map (.shutdown c))
  | .wait => some ({ h with waits := h.waits ++ [none] }, [])
  | .look w => do
    let controller ← h.controllers[0]?
    let report ← controller.published
    match h.waits[w]? with
    | some none => some ({ h with waits := h.waits.set w (some report) }, [.reported w report])
    | _ => none
  | .advance now =>
    if h.clock.now ≤ now then some ({ h with clock := { h.clock with now } }, []) else none

def step (h : Host) (e : Event) : Option (Host × List Happening) := do
  let (h, happenings) ← h.stepParts e
  some ({ h with metrics := happenings.foldl count h.metrics }, happenings)

def shown (h : Host) : String :=
  let controller := match h.controllers.head? with
    | some c => c.shown h.registry
    | none => ""
  Shown.record "Host" [
    ("registry", h.registry.shown),
    ("controller", controller),
    ("trap", h.trap.shown),
    ("start_interval", h.startInterval.shown)]

end Host

end FrameHost
