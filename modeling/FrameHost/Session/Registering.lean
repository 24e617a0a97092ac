import FrameHost.Metrics
import FrameHost.Registrar

/-! A caller that works with a registry, one step after another. -/

set_option autoImplicit false

namespace FrameHost.Session.Registering

structure Subject where
  id : FrameId
  running : Bool := false
  deriving Inhabited

inductive Step where
  | register (frame : Subject)
  | tryRegister (frame : Subject)
  /-- Register the frame at a place of the registry once more. -/
  | again (place : Nat)
  /-- Register many frames of one name with numbers behind it. -/
  | fill (name : String) (count : Nat)
  | lookup (name : String) (version : Option String)
  | list
  | size
  | show
  | snapshot
  | snapshots
  | unknown (name : String)

inductive Answer where
  | ok
  | refused (error : RegistrationError)
  | fatal (error : RegistrationError)
  | noFrame
  | number (n : Nat)
  | found (frame : Option Subject)
  | keys (keys : List String)
  | size (n : Nat)
  | shown (short tall : String)
  | snapshots (keys : List (List String))
  | unknown (name : String)

/-- `frames` describes the frames of the registry in their order. -/
structure State where
  registrar : Registrar := {}
  metrics : Metrics := {}
  frames : List Subject := []
  snapshots : List (List String) := []
  log : List Log.Record := []
  deriving Inhabited

namespace State

def registry (s : State) : Registry := s.registrar.registry

def attempt (s : State) (frame : Subject) : State × Option RegistrationError :=
  match s.registrar.step (.attempt frame.id) with
  | some (_, [.refused e]) => (s, some e)
  | some (registrar, [.admitted key count]) =>
    match registrar.step (.publish 0) with
    | some (registrar, _) =>
      ({ s with
          registrar
          metrics := s.metrics.recordRegistered count
          frames := s.frames ++ [frame]
          log := s.log ++ [Registry.registeredRecord key count] }, none)
    | none => (s, none)
  | _ => (s, none)

def attemptMore : State × Nat → Subject → State × Nat
  | (s, accepted), frame =>
    match s.attempt frame with
    | (s, none) => (s, accepted + 1)
    | (s, some _) => (s, accepted)

def attemptAll (s : State) (frames : List Subject) : State × Nat := frames.foldl attemptMore (s, 0)

def take (s : State) : Step → State × Answer
  | .register frame =>
    match s.attempt frame with
    | (s, none) => (s, .ok)
    | (s, some e) => ({ s with log := s.log ++ [Registry.rejectedRecord e] }, .fatal e)
  | .tryRegister frame =>
    match s.attempt frame with
    | (s, none) => (s, .ok)
    | (s, some e) => (s, .refused e)
  | .again place =>
    match s.frames[place]? with
    | none => (s, .noFrame)
    | some frame =>
      match s.attempt frame with
      | (s, none) => (s, .ok)
      | (s, some e) => (s, .refused e)
  | .fill name count =>
    let frames := (List.range count).map fun i => { id := .ofName (name ++ toString i) }
    let (filled, accepted) := s.attemptAll frames
    ({ filled with log := s.log }, .number accepted)
  | .lookup name version =>
    (s, .found ((s.registry.place? name version).bind (s.frames[·]?)))
  | .list => (s, .keys s.registry.keys)
  | .size => (s, .size s.registry.size)
  | .show => (s, .shown s.registry.shown s.registry.shownTall)
  | .snapshot =>
    ({ s with snapshots := s.snapshots ++ [s.registry.keys] }, .number s.snapshots.length)
  | .snapshots => (s, .snapshots s.snapshots)
  | .unknown name => (s, .unknown name)

end State

structure Result where
  answer : Answer
  size : Nat
  log : List Log.Record

def advance : State × List Result → Step → State × List Result
  | (s, results), step =>
    let (s, answer) := { s with log := [] }.take step
    (s, results ++ [{ answer, size := s.registry.size, log := s.log }])

def run (steps : List Step) : List Result × Metrics :=
  let (s, results) := steps.foldl advance ({}, [])
  (results, s.metrics)

end FrameHost.Session.Registering
