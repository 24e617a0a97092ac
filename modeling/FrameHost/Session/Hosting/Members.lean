import FrameHost.Session.Hosting.Basic

/-! The frames of a host at work: how each runs and stops. -/

set_option autoImplicit false

namespace FrameHost.Session.Hosting

namespace State

def setMember (s : State) (frame : Nat) (m : Member) : State :=
  { s with members := s.members.set frame m }

def applyHttp (s : State) (frame : Nat) (e : Http.Event) : State × List Http.Happening :=
  match s.members[frame]? with
  | some (.http f) =>
    match f.step s.now e with
    | some (f', happenings) =>
      let s := happenings.foldl
        (fun s h =>
          match f'.record? h with
          | some r => s.say r
          | none => s)
        (s.setMember frame (.http f'))
      ((s.flag frame f'.running), happenings)
    | none => (s, [])
  | _ => (s, [])

inductive RunEnd where
  | returned
  | panicked (message : String)
  | serving

/-- Run a frame that serves HTTP. No address of a session can be bound. -/
def runHttp (s : State) (frame : Nat) (f : Http.Frame) : State :=
  let run := f.runs.length
  let s := (s.applyHttp frame .spawn).1
  let (s, happenings) := s.applyHttp frame (.claim run)
  match happenings with
  | [.claimed _] =>
    let s := (s.applyHttp frame (.fail run .address)).1
    let s := (s.applyHttp frame (.clear run)).1
    (s.applyHttp frame (.release run)).1
  | _ => s

def runMember (s : State) (frame : Nat) : State × RunEnd :=
  match s.members[frame]? with
  | none => (s, .returned)
  | some (.http f) => (s.runHttp frame f, .returned)
  | some (.scripted script runs shutdowns) =>
    let name := (s.idAt frame).text
    let s := (s.setMember frame (.scripted script (runs + 1) shutdowns)).note (some frame) ("run:" ++ name)
    match script.run with
    | .returns => (s, .returned)
    | .panics => (s, .panicked ("run of " ++ name))
    | .serves => (s.flag frame true, .serving)

inductive StopEnd where
  | returned (graceful : Bool)
  | panicked (message : String)
  | delaying (due : Nat)

def finishStop (s : State) (frame : Nat) (script : Script) : State × StopEnd :=
  let s := s.flag frame false
  (s.note (some frame) ("stopped:" ++ (s.idAt frame).text), .returned script.graceful)

def timeOut (s : State) (frame : Nat) : State × StopEnd :=
  (s.note (some frame) ("timeout:" ++ (s.idAt frame).text), .returned false)

/-- Shut a frame down, up to the point where it waits. `task` is who waits. -/
def stopMember (s : State) (task frame : Nat) (token : Token) : State × StopEnd :=
  match s.members[frame]? with
  | none => (s, .returned true)
  | some (.http f) =>
    let s := (s.applyHttp frame (.callShutdown token)).1
    ((s.applyHttp frame (.take f.stops.length)).1, .returned true)
  | some (.scripted script runs shutdowns) =>
    let name := (s.idAt frame).text
    let s := (s.setMember frame (.scripted script runs (shutdowns + 1))).note (some frame)
      ("stop:" ++ name ++ ":remaining=" ++ toString (token.remaining s.now))
    if script.panics then (s, .panicked (Script.panicMessage name))
    else
      match script.delay with
      | none | some 0 => s.finishStop frame script
      | some delay =>
        if !script.ignoresToken && token.fired s.now then s.timeOut frame
        else
          let s := s.setTimer task (s.now + delay)
          let s := if script.ignoresToken then s else s.setTimer task token.deadline
          (s, .delaying (s.now + delay))

def resumeStop (s : State) (frame : Nat) (token : Token) (due : Nat) : Option (State × StopEnd) :=
  match s.members[frame]? with
  | some (.scripted script ..) =>
    if due ≤ s.now then some (s.finishStop frame script)
    else if !script.ignoresToken && token.fired s.now then some (s.timeOut frame)
    else none
  | _ => some (s, .returned true)

def callOf (s : State) (controller call : Nat) : Option Shutdown.Call :=
  (s.host.controllers[controller]?).bind (·.call? call)

def tokenOf (s : State) (controller call : Nat) : Token :=
  ((s.callOf controller call).map (·.token)).getD default

def register (s : State) (id : FrameId) (member : Member) (fatal : Bool) : State × Answer :=
  let frame := s.host.registry.size
  match s.apply (.registration (.attempt id)) with
  | (s, [.registration (.refused e)]) =>
    if fatal then (s.say (Registry.rejectedRecord e), .fatal e) else (s, .refused e)
  | (s, _) =>
    let s := { (s.apply (.registration (.publish 0))).1 with members := s.members ++ [member] }
    match member with
    | .scripted script .. => (s.flag frame script.running, .ok)
    | .http _ => (s, .ok)

def standing (s : State) (frame : Nat) (m : Member) : Standing :=
  let key := (s.idAt frame).key
  let running := s.host.isRunningAt frame
  match m with
  | .scripted _ runs shutdowns => .scripted key running runs shutdowns
  | .http f => .http key running f.bindAddress f.localAddress.isSome f.shown

end State

end FrameHost.Session.Hosting
