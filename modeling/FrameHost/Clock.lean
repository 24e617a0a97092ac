import FrameHost.Duration

/-! The clock of a running host and the deadlines it can express.

A reading counts seconds in a signed word of 64 bits. A deadline past the last second that
the word holds does not exist. -/

set_option autoImplicit false

namespace FrameHost

/-- Readings are milliseconds after an instant at which the machine had run for `origin`
milliseconds. -/
structure Clock where
  origin : Nat
  now : Nat
  deriving DecidableEq, Repr, Inhabited

namespace Clock

/-- The number of seconds that a reading can hold: two to the power of 63. -/
def capacitySeconds : Nat := 0x8000000000000000

def fresh : Clock := { origin := 3600000, now := 0 }

def deadline? (c : Clock) (timeout : Duration) : Option Nat :=
  if (c.origin + c.now + timeout.millis) / 1000 < capacitySeconds then some (c.now + timeout.millis)
  else none

def overflowMessage : String := "overflow when adding duration to instant"

theorem deadline?_eq_some_iff (c : Clock) (timeout : Duration) (d : Nat) :
    c.deadline? timeout = some d ↔
      (c.origin + c.now + timeout.millis) / 1000 < capacitySeconds ∧ d = c.now + timeout.millis := by
  unfold deadline?
  split <;> simp [*, eq_comm]

end Clock

end FrameHost
