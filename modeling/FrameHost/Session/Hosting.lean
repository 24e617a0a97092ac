import FrameHost.Session.Hosting.Tasks

/-! A caller that works with a host, one step after another, on a clock that moves only when
nothing can run.

Starts, the shutdown of each frame, the trap and concurrent calls are tasks. Each task works
until it has to wait; what it does to the host is an event of the host's own machine. -/

set_option autoImplicit false

namespace FrameHost.Session.Hosting

namespace State

/-- Let a task work until it has to wait. Its timers are dropped when it goes on. -/
def poll : Nat → Nat → State → State
  | 0, _, s => s
  | fuel + 1, task, s =>
    match advance { s with schedule := s.schedule.dropTimers task } task with
    | some s => poll fuel task s
    | none => s

def pollFuel (s : State) : Nat := 4 * s.members.length + 64

def runQueue : Nat → State → State
  | 0, s => s
  | n + 1, s =>
    match s.schedule.next? with
    | none => s
    | some (task, schedule) =>
      let s := { s with schedule }
      runQueue n (poll s.pollFuel task s)

def mainAnswer? (s : State) : Option Answer :=
  match (s.tasks[0]?).map Task.work with
  | some (.caller _ _ _ _ (.done answer)) => some answer
  | _ => none

def pollMain (s : State) : State :=
  if s.schedule.mainWoken then
    let s := { s with schedule := { s.schedule with mainWoken := false } }
    poll s.pollFuel 0 s
  else s

def drive : Nat → State → State
  | 0, s => s
  | fuel + 1, s =>
    let s := s.pollMain
    if s.mainAnswer?.isSome then s
    else
      let s := runQueue Schedule.round s
      if s.schedule.queue.isEmpty ∧ !s.schedule.mainWoken then
        -- The clock moves only when no task can go on.
        match s.schedule.advance? with
        | some schedule => drive fuel { s with schedule }
        | none => s
      else drive fuel s

def settle : Nat → State → State
  | 0, s => s
  | fuel + 1, s =>
    if s.schedule.queue.isEmpty then { s with schedule := { s.schedule with mainWoken := false } }
    else settle fuel (runQueue Schedule.round s)

def take (fuel : Nat) (s : State) (step : Step) : State × Answer :=
  let main : Task := { parent := none, work := .caller step 0 s.now 0 .ready }
  let s := { s with tasks := s.tasks.set 0 main, schedule := { s.schedule with mainWoken := true } }
  let s := drive fuel s
  (settle fuel s, s.mainAnswer?.getD .nothing)

end State

/-- Put calls on frames in the order of the frames, for each instant and between finalizers. -/
def orderCalls (calls : List Call) : List Call :=
  let sameGroup (a b : Call) := a.time = b.time ∧ a.frame.isSome ∧ b.frame.isSome
  let groups := calls.splitBy fun a b => sameGroup a b
  groups.flatMap fun group => group.mergeSort fun a b => a.frame.getD 0 ≤ b.frame.getD 0

def ungraceful? : Entry → Option (Nat × String)
  | .record t r =>
    if r.message = "Frame stopped without grace" then
      match r.fields with
      | [(_, .text frame)] => some (t, frame)
      | _ => none
    else none
  | .finalizer _ => none

def orderLog (log : List Entry) : List Entry :=
  let sameGroup (a b : Entry) :=
    match ungraceful? a, ungraceful? b with
    | some (t, _), some (u, _) => t = u
    | _, _ => false
  let before (a b : Entry) :=
    match ungraceful? a, ungraceful? b with
    | some (_, x), some (_, y) => decide (x ≤ y)
    | _, _ => true
  (log.splitBy sameGroup).flatMap fun group => group.mergeSort before

structure Result where
  time : Nat
  answer : Answer
  calls : List Call
  log : List Entry

mutual

def stepSize : Step → Nat
  | .concurrent calls => 1 + callsSize calls
  | _ => 1

def callsSize : List (Nat × Step) → Nat
  | [] => 0
  | (_, step) :: rest => stepSize step + callsSize rest

end

/-- Every task belongs to a step and a frame, and wakes a few times at most. -/
def fuelFor (steps : List Step) : Nat :=
  let size := steps.foldl (fun size step => size + stepSize step) 0
  16 * (size + 4) * (size + 4)

def run (host : Host) (steps : List Step) : List Result × Metrics :=
  let start : State := { host, tasks := [{ parent := none, work := .finished }] }
  let fuel := fuelFor steps
  let (s, results) := steps.foldl
    (fun (s, results) step =>
      let (s, answer) := { s with calls := [], log := [] }.take fuel step
      let result :=
        { time := s.now, answer, calls := orderCalls s.calls, log := orderLog s.log }
      (s, results ++ [result]))
    (start, [])
  (results, s.host.metrics)

end FrameHost.Session.Hosting
