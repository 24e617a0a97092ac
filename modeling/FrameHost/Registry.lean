import FrameHost.FrameId
import FrameHost.Log.Record

/-! The frames of a host in the order of their registration, one to a key. -/

set_option autoImplicit false

namespace FrameHost

inductive RegistrationError where
  | emptyName
  | duplicate (key : String)
  deriving DecidableEq, Repr

namespace RegistrationError

def message : RegistrationError → String
  | .emptyName => "frame name must not be empty"
  | .duplicate key => "frame " ++ key ++ " is registered repeatedly"

def kind : RegistrationError → String
  | .emptyName => "EmptyName"
  | .duplicate _ => "Duplicate"

def shown : RegistrationError → String
  | .emptyName => "EmptyName"
  | .duplicate key => Shown.record "Duplicate" [("key", Text.quoted key)]

end RegistrationError

structure Registry where
  frames : List FrameId := []
  deriving DecidableEq, Inhabited

namespace Registry

def keys (r : Registry) : List String := r.frames.map FrameId.key

def size (r : Registry) : Nat := r.frames.length

/-- Add a frame at the end. A missing name is reported before a key that is taken. -/
def tryRegister (r : Registry) (id : FrameId) : Except RegistrationError Registry :=
  if id.name = "" then .error .emptyName
  else if id.key ∈ r.keys then .error (.duplicate id.key)
  else .ok ⟨r.frames ++ [id]⟩

def place? (r : Registry) (name : String) (version : Option String) : Option Nat :=
  r.frames.findIdx? fun id => id.key == keyFor name version

def lookup (r : Registry) (name : String) (version : Option String) : Option FrameId :=
  r.frames.find? fun id => id.key == keyFor name version

def shown (r : Registry) : String :=
  Shown.record "FrameRegistry" [("frames", Shown.list (r.keys.map Text.quoted))]

def shownTall (r : Registry) : String :=
  Shown.tallRecord 0 "FrameRegistry" [("frames", Shown.tallList 1 (r.keys.map Text.quoted))]

def registeredRecord (key : String) (count : Nat) : Log.Record :=
  { level := .debug, target := "frame_host::registry", message := "Frame registered"
    fields := [("frame", .text key), ("registered", .count count)] }

def rejectedRecord (e : RegistrationError) : Log.Record :=
  { level := .error, target := "frame_host::registry", message := "Frame registration rejected"
    fields := [("error", .text e.message)] }

theorem tryRegister_eq_ok_iff (r s : Registry) (id : FrameId) :
    r.tryRegister id = .ok s ↔ id.name ≠ "" ∧ id.key ∉ r.keys ∧ s = ⟨r.frames ++ [id]⟩ := by
  unfold tryRegister
  split
  · simp [*]
  · split
    · simp [*]
    · rename_i named fresh
      simp only [Except.ok.injEq, ne_eq, named, not_false_eq_true, fresh, true_and]
      exact ⟨Eq.symm, Eq.symm⟩

end Registry

end FrameHost
