import FrameHost.Session.Hosting.Members

/-! The tasks of a host, piece by piece: each works until it has to wait. -/

set_option autoImplicit false

namespace FrameHost.Session.Hosting

namespace State

def armNew (s : State) (timeout : Duration) : State × Answer :=
  let c := s.host.controllers.length
  let s := (s.apply (.addController timeout)).1
  let controller := (s.host.controllers[c]?).getD { defaultTimeout := timeout }
  let armed := !s.host.trap.armed
  let s := (s.apply (.trap (.arm c))).1
  -- The task of the trap waits for the trigger.
  let s := if armed then s.spawn none (.caller .wait 0 s.now 0 .trapped) else s
  (s, .arming timeout.millis controller.finalizer.isSome (controller.shown s.host.registry) armed)

def request (s : State) (timeout : Option Duration) : State × Stage :=
  let call := ((s.host.controllers[0]?).map (·.calls.length)).getD 0
  match s.apply (.shutdown 0 (.request timeout)) with
  | (s, [.shutdown _ .overflowed]) => (s, .done .overflow)
  | (s, _) => (s, .shutting 0 call .idle)

def patience : Nat := 3600000

def runPatience : Nat := 1000

def begin (s : State) (task : Nat) : Step → State × Stage
  | .register id member fatal =>
    let (s, answer) := s.register id member fatal
    (s, .done answer)
  | .frames =>
    (s, .done (.frames (s.host.registry.frames.zipIdx.map fun (id, i) => (id.key, s.host.isRunningAt i))))
  | .frame name version => (s, .done (.text ((s.host.registry.lookup name version).map (·.text))))
  | .isRunning name version => (s, .done (.boolean (s.host.isRunning name version)))
  | .snapshot => ({ s with snapshots := s.snapshots ++ [s.host.registry.keys] }, .done .done)
  | .snapshots => (s, .done (.snapshots s.snapshots))
  | .startAll =>
    let pass := s.host.starts.passes.length
    ((s.apply (.startup .call)).1, .starting pass)
  | .sleep 0 => (s, .done .done)
  | .sleep millis =>
    let due := s.now + min millis longestSleep
    (s.setTimer task due, .sleeping due)
  | .setFinalizer finalizer =>
    let number := s.finalizers.length
    let s := { s with finalizers := s.finalizers ++ [finalizer] }
    ((s.apply (.shutdown 0 (.setFinalizer number))).1, .done .done)
  | .shutdown timeout => s.request timeout
  | .signal => ((s.apply (.trap .signal)).1.wakeWhere waitsForTrigger, .done .done)
  | .armed => (s, .done (.armed s.host.trap.armed s.host.trap.built))
  | .arm timeout =>
    let (s, answer) := s.armNew timeout
    (s, .done answer)
  | .wait =>
    let waiter := s.host.waits.length
    let s := (s.apply .wait).1
    match s.apply (.look waiter) with
    | (s, [.reported _ r]) => (s, .done (.report r))
    | _ => (s.setTimer task (s.now + patience), .waiting waiter (s.now + patience))
  | .token =>
    let state := s.finalized.map fun (c, k) =>
      let token := s.tokenOf c k
      (token.fired s.now, token.remaining s.now)
    (s, .done (.token state))
  | .show => (s, .done (.text (some s.host.shown)))
  | .setRunning frame running =>
    match s.members[frame]? with
    | some (.scripted ..) => (s.flag frame running, .done .done)
    | _ => (s, .done .noFrame)
  | .runFrame frame =>
    if (s.members[frame]?).isNone then (s, .done .noFrame)
    else
      match s.runMember frame with
      | (s, .returned) => (s, .done (.boolean true))
      | (s, .panicked message) => (s, .done (.panicked message))
      | (s, .serving) => (s.setTimer task (s.now + runPatience), .running (s.now + runPatience))
  | .stopFrame frame timeout =>
    if (s.members[frame]?).isNone then (s, .done .noFrame)
    else
      let token : Token := { deadline := s.now + timeout }
      match s.stopMember task frame token with
      | (s, .returned graceful) => (s, .done (.boolean graceful))
      | (s, .panicked message) => (s, .done (.panicked message))
      | (s, .delaying due) => (s, .stopping frame token (.delaying due))
  | .stats => (s, .done (.stats (s.members.zipIdx.map fun (m, i) => s.standing i m)))
  | .concurrent calls =>
    let first := s.tasks.length
    let s := calls.foldl
      (fun s (pause, step) => s.spawn (some task) (.caller step pause 0 0 (.pausing 0))) s
    (s, .joining (List.range' first calls.length))
  | .unknown name => (s, .done (.unknown name))

def takeTurn (s : State) (task pass : Nat) : State × Stage :=
  let (s, happenings) := s.apply (.startup (.turn pass))
  match happenings with
  | [.startup (.dispatched _ run _ _)] =>
    let s := s.spawn none (.run run)
    match (s.host.starts.passes[pass]?).map Startup.Pass.stage with
    | some (.pausing wake) =>
      (if wake ≤ s.now then s else s.setTimer task wake, .starting pass)
    | _ => (s, .starting pass)
  | _ => (s, .starting pass)

def resumeStart (s : State) (task pass : Nat) : Option (State × Stage) := do
  let p ← s.host.starts.passes[pass]?
  match p.stage with
  | .returned =>
    let armed := !s.host.trap.armed
    let s := (s.apply (.armAfter pass)).1
    let s := if armed then s.spawn none (.caller .wait 0 s.now 0 .trapped) else s
    return (s, .done (.number p.dispatched))
  | .pausing wake =>
    if wake ≤ s.now then return s.takeTurn task pass else none
  | .looking => return s.takeTurn task pass

def endFinalizer (s : State) (c k : Nat) (outcome : Shutdown.Outcome) : State × Stage :=
  ((s.apply (.shutdown c (.endFinalizer k outcome))).1, .shutting c k .idle)

def finalizerAt (s : State) (number : Nat) : Finalizer := (s.finalizers[number]?).getD default

def closeFinalizer (s : State) (c k number : Nat) : State × Stage :=
  let f := s.finalizerAt number
  let finalized := s.note none ("finalized:" ++ f.tag)
  match f.kind with
  | .panic | .refuse => s.endFinalizer c k .panicked
  | .fail => finalized.endFinalizer c k (.failed "cleanup failed")
  | .ok | .wait => finalized.endFinalizer c k .ok

def afterDelay (s : State) (task c k number : Nat) : State × Stage :=
  let token := s.tokenOf c k
  if (s.finalizerAt number).kind = .wait ∧ !token.fired s.now then
    (s.setTimer task token.deadline, .shutting c k (.watching number))
  else s.closeFinalizer c k number

def callFinalizer (s : State) (task c k number : Nat) : State × Stage :=
  let token := s.tokenOf c k
  let f := s.finalizerAt number
  let s := { s with finalized := some (c, k), log := s.log ++ [Entry.finalizer s.now] }
  let s := s.note none ("finalizer:" ++ f.tag ++ ":remaining=" ++ toString (token.remaining s.now)
    ++ ":cancelled=" ++ Shown.boolean (token.fired s.now))
  if f.kind = .refuse then s.endFinalizer c k .panicked
  else
    match f.delay with
    | none | some 0 => s.afterDelay task c k number
    | some delay =>
      (s.setTimer task (s.now + delay), .shutting c k (.delaying number (s.now + delay)))

def resumeShutdown (s : State) (task c k : Nat) (finalizing : Finalizing) : Option (State × Stage) := do
  let call ← s.callOf c k
  match call.phase with
  | .queued =>
    match s.apply (.shutdown c (.acquire k)) with
    | (_, []) => none
    | (s, _) =>
      let s := (List.range s.host.registry.size).foldl
        (fun s frame => s.spawn (some task) (.stop c k frame .called)) s
      return (s, .shutting c k .idle)
  | .stopping =>
    if call.stops.all Shutdown.Stop.ended then
      let (s, happenings) := s.apply (.shutdown c (.passBarrier k))
      match happenings.getLast? with
      | some (.shutdown _ (.finalizerCalled _ f _)) =>
        return s.callFinalizer task c k f
      | _ => return (s, .shutting c k .idle)
    else none
  | .finalizing =>
    match finalizing with
    | .idle => none
    | .delaying f due => if due ≤ s.now then return s.afterDelay task c k f else none
    | .watching f => if (s.tokenOf c k).fired s.now then return s.closeFinalizer c k f else none
  | .closing _ => return ((s.apply (.shutdown c (.close k))).1, .shutting c k .idle)
  | .ended report => return (s, .done (.report report))
  | .abandoned => return (s, .done .nothing)

def joined? (s : State) (tasks : List Nat) : Option (List (Nat × Nat × Answer)) :=
  tasks.mapM fun task =>
    match (s.tasks[task]?).map Task.work with
    | some (.caller _ _ began ended (.done answer)) => some (began, ended, answer)
    | _ => none

def resume (s : State) (task : Nat) (step : Step) : Stage → Option (State × Stage)
  | .pausing due => if due ≤ s.now then some (s, .ready) else none
  | .ready => some (s.begin task step)
  | .sleeping due => if due ≤ s.now then some (s, .done .done) else none
  | .starting pass => s.resumeStart task pass
  | .trapped =>
    match (s.host.trap.controller).bind (s.host.controllers[·]?), s.apply (.trap .call) with
    | some controller, (s, .trap (.received c) :: more) =>
      match more with
      | [] => some (s, .shutting c controller.calls.length .idle)
      | _ => some (s, .done .overflow)
    | _, _ => none
  | .shutting c k finalizing => s.resumeShutdown task c k finalizing
  | .waiting waiter due =>
    match s.apply (.look waiter) with
    | (s, [.reported _ r]) => some (s, .done (.report r))
    | _ => if due ≤ s.now then some (s, .done .nothing) else none
  | .running due => if due ≤ s.now then some (s, .done (.boolean false)) else none
  | .stopping frame token (.delaying due) =>
    (s.resumeStop frame token due).map fun
      | (s, .returned graceful) => (s, .done (.boolean graceful))
      | (s, .panicked message) => (s, .done (.panicked message))
      | (s, .delaying due) => (s, .stopping frame token (.delaying due))
  | .stopping _ _ .called => none
  | .joining tasks => (s.joined? tasks).map fun calls => (s, .done (.concurrent calls))
  | .done _ => none

def settleStop (s : State) (task c k frame : Nat) : StopEnd → State
  | .returned graceful =>
    ((s.apply (.shutdown c (.finish k frame graceful))).1).finish task .finished
  | .panicked message => ((s.apply (.shutdown c (.panic k frame message))).1).finish task .finished
  | .delaying due => s.setWork task (.stop c k frame (.delaying due))

/-- Let a task do its next piece of work. None if it has to wait or is over. -/
def advance (s : State) (task : Nat) : Option State := do
  let t ← s.tasks[task]?
  match t.work with
  | .finished => none
  | .run run =>
    let r ← s.host.starts.runs[run]?
    if r.phase = .spawned then
      let s := (s.apply (.startup (.beginRun run))).1
      match s.runMember r.frame with
      | (s, .serving) => return s
      | (s, _) => return ((s.apply (.startup (.endRun run))).1).setWork task .finished
    else none
  | .stop c k frame .called =>
    let s := (s.apply (.shutdown c (.invoke k frame))).1
    let (s, outcome) := s.stopMember task frame (s.tokenOf c k)
    return s.settleStop task c k frame outcome
  | .stop c k frame (.delaying due) =>
    let (s, outcome) ← s.resumeStop frame (s.tokenOf c k) due
    return s.settleStop task c k frame outcome
  | .caller step pause began ended stage =>
    match stage with
    | .pausing 0 =>
      if pause = 0 then return s.setWork task (.caller step pause s.now ended .ready)
      else
        let due := s.now + pause
        return (s.setTimer task due).setWork task (.caller step pause began ended (.pausing due))
    | _ =>
      let (s, next) ← s.resume task step stage
      match next with
      | .ready => return s.setWork task (.caller step pause s.now ended .ready)
      | .done _ => return s.finish task (.caller step pause began s.now next)
      | _ => return s.setWork task (.caller step pause began ended next)

end State

end FrameHost.Session.Hosting
