/-! Which task runs next on one processor whose clock moves only when nothing can run.

Task 0 is the main one. It has a flag of its own and is looked at between rounds; all others
stand in a queue, first come first served. When nothing can run the clock jumps to the next
timer, and all timers of that instant fire in the order of their setting. -/

set_option autoImplicit false

namespace FrameHost.Session

structure Timer where
  due : Nat
  owner : Nat
  deriving DecidableEq, Repr, Inhabited

structure Schedule where
  now : Nat := 0
  mainWoken : Bool := false
  queue : List Nat := []
  /-- By time, and by the order of setting for one time. -/
  timers : List Timer := []
  deriving DecidableEq, Repr, Inhabited

/-- Thirty years. -/
def longestSleep : Nat := 30 * 365 * 86400 * 1000

namespace Schedule

/-- How many tasks of the queue run before the main task is looked at again. -/
def round : Nat := 61

def wake (s : Schedule) (task : Nat) : Schedule :=
  if task = 0 then { s with mainWoken := true }
  else if task ∈ s.queue then s
  else { s with queue := s.queue ++ [task] }

def insertTimer (t : Timer) : List Timer → List Timer
  | [] => [t]
  | u :: rest => if t.due < u.due then t :: u :: rest else u :: insertTimer t rest

def setTimer (s : Schedule) (owner due : Nat) : Schedule :=
  { s with timers := insertTimer ⟨due, owner⟩ s.timers }

def dropTimers (s : Schedule) (owner : Nat) : Schedule :=
  { s with timers := s.timers.filter fun t => t.owner ≠ owner }

def advance? (s : Schedule) : Option Schedule :=
  match s.timers with
  | [] => none
  | first :: _ =>
    let now := max s.now first.due
    let due := s.timers.takeWhile fun t => t.due ≤ now
    let later := s.timers.dropWhile fun t => t.due ≤ now
    some (due.foldl (fun s t => s.wake t.owner) { s with now, timers := later })

def next? (s : Schedule) : Option (Nat × Schedule) :=
  match s.queue with
  | [] => none
  | task :: rest => some (task, { s with queue := rest })

end Schedule

end FrameHost.Session
