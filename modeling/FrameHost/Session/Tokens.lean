import FrameHost.Token
import FrameHost.Session.Schedule

/-! A caller that works with shutdown tokens, one step after another, while tasks that it has
left behind cancel some of them later. -/

set_option autoImplicit false

namespace FrameHost.Session.Tokens

inductive Step where
  | timeout (length : Duration)
  | deadline (at_ : Nat)
  | clone (token : Nat)
  | cancel (token : Nat)
  | cancelAfter (token : Nat) (millis : Nat)
  | sleep (millis : Nat)
  | wait (token : Nat)
  | state (token : Nat)
  | unknown (name : String) (token : Nat)
  deriving DecidableEq, Repr

inductive Answer where
  | done
  | number (n : Nat)
  | overflow
  | waited (millis : Nat)
  | state (cancelled : Bool) (remaining deadline : Nat)
  | noToken
  | unknown (name : String)
  deriving DecidableEq, Repr

structure Canceller where
  token : Nat
  millis : Nat
  due : Option Nat := none
  finished : Bool := false
  deriving DecidableEq, Repr, Inhabited

structure Waiting where
  due : Nat
  token : Option Nat := none
  deriving DecidableEq, Repr

structure State where
  clock : Clock := .fresh
  schedule : Schedule := {}
  tokens : FrameHost.Tokens := {}
  cancellers : List Canceller := []
  waiting : Option Waiting := none
  deriving Inhabited

namespace State

def now (s : State) : Nat := s.schedule.now

def fired (s : State) (token : Nat) : Bool := (s.tokens.get? token).any fun t => t.fired s.now

def ready (s : State) (w : Waiting) : Bool := w.due ≤ s.now || w.token.any s.fired

/-- Cancel a token. The caller wakes if it waits for one of the same family. -/
def cancel (s : State) (token : Nat) : State :=
  let tokens := s.tokens.cancel token
  let watched := (s.waiting.bind (·.token)).any fun w => tokens.family? w = tokens.family? token
  { s with tokens, schedule := if watched then s.schedule.wake 0 else s.schedule }

def runTask (s : State) (task : Nat) : State :=
  match s.cancellers[task - 1]? with
  | none => s
  | some c =>
    if c.finished then s
    else
      let due := c.due.getD (s.now + c.millis)
      if due ≤ s.now then
        ({ s with cancellers := s.cancellers.set (task - 1) { c with finished := true } }).cancel c.token
      else
        { s with
          cancellers := s.cancellers.set (task - 1) { c with due := some due }
          schedule := s.schedule.setTimer task due }

def runQueue : Nat → State → State
  | 0, s => s
  | n + 1, s =>
    match s.schedule.next? with
    | none => s
    | some (task, schedule) => runQueue n (({ s with schedule }).runTask task)

def sleepUntilReady : Nat → Waiting → State → State
  | 0, _, s => s
  | fuel + 1, w, s =>
    if s.schedule.mainWoken ∧ s.ready w then
      { s with waiting := none, schedule := { s.schedule.dropTimers 0 with mainWoken := false } }
    else
      let s := runQueue Schedule.round { s with schedule := { s.schedule with mainWoken := false } }
      if s.schedule.queue.isEmpty ∧ !s.schedule.mainWoken then
        match s.schedule.advance? with
        | some schedule => sleepUntilReady fuel w { s with schedule }
        | none => s
      else sleepUntilReady fuel w s

/-- Wait, unless the caller may go on at once. Each round ends a task, sets a timer or moves
the clock, so that the number of rounds is bounded by that of the tasks. -/
def wait (s : State) (w : Waiting) : State :=
  if s.ready w then s
  else
    let s := { s with waiting := some w, schedule := s.schedule.setTimer 0 w.due }
    sleepUntilReady (4 * s.cancellers.length + 4) w s

def create (s : State) (deadline : Option Nat) : State × Answer :=
  match deadline with
  | some d => ({ s with tokens := s.tokens.create d }, .number s.tokens.tokens.length)
  | none => (s, .overflow)

def clockNow (s : State) : Clock := { s.clock with now := s.now }

def takeFor (s : State) (token : Nat) (t : Token) : Step → State × Answer
  | .clone _ =>
    ({ s with tokens := (s.tokens.clone? token).getD s.tokens }, .number s.tokens.tokens.length)
  | .cancel _ => (s.cancel token, .done)
  | .cancelAfter _ millis =>
    ({ s with
        cancellers := s.cancellers ++ [{ token, millis }]
        schedule := s.schedule.wake (s.cancellers.length + 1) }, .done)
  | .wait _ =>
    let start := s.now
    let s := s.wait { due := t.deadline, token := some token }
    (s, .waited (s.now - start))
  | .state _ => (s, .state (t.fired s.now) (t.remaining s.now) t.deadline)
  | .unknown name _ => (s, .unknown name)
  | _ => (s, .done)

def take (s : State) (step : Step) : State × Answer :=
  match step with
  | .timeout length => s.create (s.clockNow.deadline? length)
  | .deadline at_ => s.create (some at_)
  | .sleep millis => (s.wait { due := s.now + min millis longestSleep }, .done)
  | .clone i | .cancel i | .cancelAfter i _ | .wait i | .state i | .unknown _ i =>
    match s.tokens.get? i with
    | some t => s.takeFor i t step
    | none => (s, .noToken)

end State

def run (steps : List Step) : List (Nat × Answer) :=
  (steps.foldl
    (fun (s, answers) step =>
      let (s, answer) := s.take step
      (s, answers ++ [(s.now, answer)]))
    (({} : State), [])).2

end FrameHost.Session.Tokens
