import FrameHost.Registry
import FrameHost.Token

/-! Shutdown sequences over the frames of a registry.

Every call fixes its deadline when it is made and then queues for the sequence lock, which
is granted first come first served. A sequence stops all frames of the registry as it stands
when the lock is granted, waits for every one of them, runs the finalizer, and then closes
in a fixed order: cancel the token, count the verdict, say the summary, close the log,
publish the report, release the lock.

The frames' own work, the finalizer's work and callers that give up are events, so that a
list of events is one interleaving of everything that can happen. -/

set_option autoImplicit false

namespace FrameHost.Shutdown

inductive Stop where
  | spawned
  | invoked
  | returned (graceful : Bool)
  | panicked (message : String)
  deriving DecidableEq, Repr, Inhabited

def Stop.ended : Stop → Bool
  | .returned _ | .panicked _ => true
  | _ => false

/-- How a finalizer ended; it may also panic before it has begun its work. -/
inductive Outcome where
  | ok
  | failed (error : String)
  | panicked
  deriving DecidableEq, Repr

structure Report where
  graceful : Bool
  frames : Nat
  deadline : Nat
  deriving DecidableEq, Repr, Inhabited

/-- What a sequence still has to do once the finalizer is through, in this order. -/
inductive Closing where
  | cancel | count | summarize | closeLog | publish | release
  deriving DecidableEq, Repr

inductive Phase where
  | queued
  | stopping
  | finalizing
  | closing (next : Closing)
  | ended (report : Report)
  | abandoned
  deriving DecidableEq, Repr

/-- One shutdown call. The frames it stops are the first places of the registry. -/
structure Call where
  timeout : Duration
  token : Token
  stops : List Stop := []
  graceful : Bool := true
  phase : Phase := .queued
  deriving DecidableEq, Repr

def Call.report (c : Call) : Report :=
  { graceful := c.graceful, frames := c.stops.length, deadline := c.token.deadline }

/-- The calls of one controller and what they share. A finalizer is known by a number. -/
structure Controller where
  defaultTimeout : Duration
  finalizer : Option Nat := none
  calls : List Call := []
  waiting : List Nat := []
  holder : Option Nat := none
  published : Option Report := none
  deriving Inhabited

inductive Event where
  | request (timeout : Option Duration)
  | acquire (call : Nat)
  | invoke (call frame : Nat)
  | finish (call frame : Nat) (graceful : Bool)
  | panic (call frame : Nat) (message : String)
  | passBarrier (call : Nat)
  | endFinalizer (call : Nat) (outcome : Outcome)
  | close (call : Nat)
  | setFinalizer (finalizer : Nat)
  | abandon (call : Nat)
  deriving DecidableEq, Repr

/-- What others can notice of a step. Frames and finalizers are told the deadline. -/
inductive Happening where
  | overflowed
  | began (call frames : Nat) (timeout : Duration)
  | invoked (call frame deadline : Nat)
  | returned (call frame : Nat) (graceful : Bool) (id : FrameId)
  | panicked (call frame : Nat)
  | stopFailed (call frame : Nat) (message : String)
  | finalizerCalled (call finalizer deadline : Nat)
  | finalizerEnded (call : Nat) (outcome : Outcome)
  | cancelled (call : Nat)
  | counted (call : Nat) (graceful : Bool)
  | summarized (call frames : Nat) (graceful : Bool)
  | logClosed (call : Nat)
  | published (call : Nat) (report : Report)
  | released (call : Nat)
  deriving DecidableEq

def target : String := "frame_host::lifecycle::shutdown"

def taskFailure (message : String) : String :=
  "task <id> panicked with message " ++ Text.quoted message

def summary (graceful : Bool) (frames : Nat) : Log.Record :=
  let fields := [("frames", Log.Value.count frames)]
  if graceful then { level := .info, target, message := "Frames shut down gracefully", fields }
  else { level := .warn, target, message := "Frames shut down, but not gracefully", fields }

def Happening.record? : Happening → Option Log.Record
  | .began _ frames timeout => some
      { level := .info, target, message := "Shutting down frames..."
        fields := [("frames", .count frames), ("timeout_secs", .number timeout.toFloat)] }
  | .returned _ _ false id => some
      { level := .debug, target, message := "Frame stopped without grace"
        fields := [("frame", .text id.text)] }
  | .stopFailed _ _ message => some
      { level := .error, target, message := "Frame shutdown task failed"
        fields := [("error", .text (taskFailure message))] }
  | .finalizerEnded _ (.failed error) => some
      { level := .error, target, message := "Finalizer failed"
        fields := [("finalizer", .flag true), ("error", .text error)] }
  | .finalizerEnded _ .panicked => some
      { level := .error, target, message := "Finalizer panicked"
        fields := [("finalizer", .flag true)] }
  | .summarized _ frames graceful => some (summary graceful frames)
  | _ => none

def Call.close (c : Call) : Closing → Call
  | .cancel => { c with token := c.token.cancel, phase := .closing .count }
  | .count => { c with phase := .closing .summarize }
  | .summarize => { c with phase := .closing .closeLog }
  | .closeLog => { c with phase := .closing .publish }
  | .publish => { c with phase := .closing .release }
  | .release => { c with phase := .ended c.report }

def Call.closes (c : Call) (k : Nat) : Closing → Happening
  | .cancel => .cancelled k
  | .count => .counted k c.graceful
  | .summarize => .summarized k c.stops.length c.graceful
  | .closeLog => .logClosed k
  | .publish => .published k c.report
  | .release => .released k

namespace Controller

def call? (s : Controller) (k : Nat) : Option Call := s.calls[k]?

def setCall (s : Controller) (k : Nat) (c : Call) : Controller :=
  { s with calls := s.calls.set k c }

def request (s : Controller) (clock : Clock) (timeout : Option Duration) : Option Controller :=
  let timeout := timeout.getD s.defaultTimeout
  -- The deadline counts from here, however long the call has to queue.
  (clock.deadline? timeout).map fun deadline =>
    { s with
      calls := s.calls ++ [{ timeout, token := { deadline } }]
      waiting := s.waiting ++ [s.calls.length] }

def failures (k : Nat) (stops : List Stop) : List Happening :=
  stops.zipIdx.filterMap fun (stop, frame) =>
    match stop with
    | .panicked message => some (.stopFailed k frame message)
    | _ => none

def closeStep (s : Controller) (k : Nat) (c : Call) (next : Closing) : Controller × Happening :=
  let closed := s.setCall k (c.close next)
  let closed :=
    match next with
    | .publish => { closed with published := some c.report }
    | .release => { closed with holder := none }
    | _ => closed
  (closed, c.closes k next)

def step (registry : Registry) (clock : Clock) (s : Controller) :
    Event → Option (Controller × List Happening)
  | .request timeout =>
    match s.request clock timeout with
    | some s' => some (s', [])
    | none => some (s, [.overflowed])
  | .acquire k => do
    let c ← s.call? k
    if s.holder = none ∧ s.waiting.head? = some k ∧ c.phase = .queued then
      -- Frames that are registered later are not stopped by this call.
      let frames := registry.size
      let c' := { c with stops := List.replicate frames .spawned, phase := .stopping }
      some ({ s.setCall k c' with holder := some k, waiting := s.waiting.tail },
        [.began k frames c.timeout])
    else none
  | .invoke k i => do
    let c ← s.call? k
    if c.stops[i]? = some .spawned then
      some (s.setCall k { c with stops := c.stops.set i .invoked }, [.invoked k i c.token.deadline])
    else none
  | .finish k i graceful => do
    let c ← s.call? k
    let id ← registry.frames[i]?
    if c.stops[i]? = some .invoked then
      let c' := { c with
        stops := c.stops.set i (.returned graceful), graceful := c.graceful && graceful }
      some (s.setCall k c', [.returned k i graceful id])
    else none
  | .panic k i message => do
    let c ← s.call? k
    if c.stops[i]? = some .invoked then
      some (s.setCall k { c with stops := c.stops.set i (.panicked message) }, [.panicked k i])
    else none
  | .passBarrier k => do
    let c ← s.call? k
    if c.phase = .stopping ∧ c.stops.all Stop.ended then
      -- Stops that have panicked are only told of now that all have ended.
      let failed := failures k c.stops
      let c' := { c with graceful := c.graceful && failed.isEmpty }
      match s.finalizer with
      | some f => some (s.setCall k { c' with phase := .finalizing },
          failed ++ [.finalizerCalled k f c.token.deadline])
      | none => some (s.setCall k { c' with phase := .closing .cancel }, failed)
    else none
  | .endFinalizer k outcome => do
    let c ← s.call? k
    if c.phase = .finalizing then
      let c' := { c with
        graceful := c.graceful && decide (outcome = .ok), phase := .closing .cancel }
      some (s.setCall k c', [.finalizerEnded k outcome])
    else none
  | .close k => do
    let c ← s.call? k
    match c.phase with
    | .closing next =>
      let (s', happening) := s.closeStep k c next
      some (s', [happening])
    | _ => none
  | .setFinalizer f => some ({ s with finalizer := some f }, [])
  | .abandon k => do
    let c ← s.call? k
    match c.phase with
    | .queued => some ({ s.setCall k { c with phase := .abandoned } with
        waiting := s.waiting.filter (· ≠ k) }, [])
    -- The stops that were spawned go on by themselves; a call that is closing waits for nothing any more.
    | .stopping | .finalizing => some ({ s.setCall k { c with phase := .abandoned } with
        holder := none }, [.released k])
    | _ => none

def shown (s : Controller) (registry : Registry) : String :=
  Shown.record "ShutdownController" [
    ("registry", registry.shown),
    ("default_timeout", s.defaultTimeout.shown),
    ("finalizer", Shown.boolean s.finalizer.isSome)]

end Controller

end FrameHost.Shutdown
