import FrameHost.Registry

/-! Registrations by several callers at once.

A call is admitted or refused under the registry's lock. Later, without the lock, an admitted
call publishes the number of frames that it saw. -/

set_option autoImplicit false

namespace FrameHost

/-- A registry, the counts that admitted calls have not published yet, and the gauge. -/
structure Registrar where
  registry : Registry := {}
  unpublished : List Nat := []
  gauge : Option Nat := none
  deriving DecidableEq, Inhabited

namespace Registrar

inductive Event where
  | attempt (id : FrameId)
  | publish (place : Nat)
  deriving DecidableEq

inductive Happening where
  | refused (error : RegistrationError)
  | admitted (key : String) (count : Nat)
  | published (count : Nat)
  deriving DecidableEq

def step (s : Registrar) : Event → Option (Registrar × List Happening)
  | .attempt id =>
    match s.registry.tryRegister id with
    | .error e => some (s, [.refused e])
    | .ok registry =>
      some ({ s with registry, unpublished := s.unpublished ++ [registry.size] },
        [.admitted id.key registry.size])
  | .publish place => do
    let count ← s.unpublished[place]?
    some ({ s with unpublished := s.unpublished.eraseIdx place, gauge := some count },
      [.published count])

end Registrar

end FrameHost
