import FrameHost.Net.SocketAddress

/-! What a listener can bind on a machine that stands alone.

No interface of such a machine is up. An address of four octets can be bound all the same; of
the longer ones only the unspecified one and those that embed four octets can. None can be
reached. -/

set_option autoImplicit false

namespace FrameHost.Net

inductive Refusal where
  | taken
  | notOurs
  | noDevice
  | invalid
  deriving DecidableEq, Repr, Inhabited

namespace Refusal

def code : Refusal → Nat
  | .taken => 98
  | .notOurs => 99
  | .noDevice => 19
  | .invalid => 22

def reason : Refusal → String
  | .taken => "Address already in use"
  | .notOurs => "Cannot assign requested address"
  | .noDevice => "No such device"
  | .invalid => "Invalid argument"

def message (r : Refusal) : String := r.reason ++ " (os error " ++ toString r.code ++ ")"

def ofCode? (code : Nat) : Option Refusal :=
  [taken, notOurs, noDevice, invalid].find? fun r => r.code = code

end Refusal

def unreachable : String := "NetworkUnreachable"

def somePort : String := "<port>"

namespace Host

/-- A host as a listener has it: without a scope, which only a link-local host needs. -/
def bound? : Host → Except Refusal Host
  | .v4 octets => .ok (.v4 octets)
  | .v6 groups scope =>
    let unspecified := groups.all (· = 0)
    let embeds := groups.take 6 = [0, 0, 0, 0, 0, 65535]
    let first := groups.headD 0
    if first / 256 = 255 then .error .invalid
    else if unspecified || embeds then .ok (.v6 groups 0)
    else if first / 64 = 0xFE80 / 64 then
      .error (if scope = 0 then .invalid else if scope = 1 then .notOurs else .noDevice)
    else .error .notOurs

def octets? : Host → Option (List Nat)
  | .v4 octets => some octets
  | .v6 groups _ =>
    match groups with
    | [0, 0, 0, 0, 0, 65535, a, b] => some [a / 256, a % 256, b / 256, b % 256]
    | _ => none

def everywhere : Host → Bool
  | .v4 octets => octets.all (· = 0)
  | .v6 groups _ => groups.all (· = 0)

/-- Two hosts on which one port can be taken only once. -/
def meets (a b : Host) : Bool :=
  a.everywhere || b.everywhere || (a.octets?.isSome && a.octets? = b.octets?)

end Host

namespace SocketAddress

def bound? (taken : List SocketAddress) (a : SocketAddress) : Except Refusal SocketAddress :=
  match a.host.bound? with
  | .error e => .error e
  | .ok host =>
    if a.port ≠ 0 ∧ taken.any fun t => t.port = a.port && t.host.meets host then .error .taken
    else .ok { a with host }

/-- The text of an address that is bound: port zero is one that the system chooses. -/
def boundText (a : SocketAddress) : String :=
  if a.port = 0 then a.host.text ++ ":" ++ somePort else a.text

end SocketAddress

end FrameHost.Net
