import FrameHost.Clock

/-! Tokens that tell the parts of a shutdown how long they may take.

A token fires at its deadline or when it is cancelled, whichever is first. Clones of a token
are one family: cancelling one cancels all, and the deadline of a family never changes. -/

set_option autoImplicit false

namespace FrameHost

/-- The state that all clones of a token share. -/
structure Token where
  deadline : Nat
  cancelled : Bool := false
  deriving DecidableEq, Repr, Inhabited

namespace Token

def fired (t : Token) (now : Nat) : Bool := t.cancelled || decide (t.deadline ≤ now)

/-- Time until the deadline, whether or not the token is cancelled. -/
def remaining (t : Token) (now : Nat) : Nat := t.deadline - now

def cancel (t : Token) : Token := { t with cancelled := true }

@[simp] theorem fired_cancel (t : Token) (now : Nat) : t.cancel.fired now = true := rfl

theorem fired_mono (t : Token) {now later : Nat} (h : now ≤ later) (f : t.fired now = true) :
    t.fired later = true := by
  simp only [fired, Bool.or_eq_true, decide_eq_true_eq] at *
  exact f.imp id fun d => Nat.le_trans d h

end Token

/-- All tokens of a program: each one names its family. -/
structure Tokens where
  families : List Token := []
  tokens : List Nat := []
  deriving Inhabited

namespace Tokens

def family? (s : Tokens) (i : Nat) : Option Nat := s.tokens[i]?

def get? (s : Tokens) (i : Nat) : Option Token := (s.family? i).bind fun f => s.families[f]?

def create (s : Tokens) (deadline : Nat) : Tokens :=
  { families := s.families ++ [{ deadline }], tokens := s.tokens ++ [s.families.length] }

def clone? (s : Tokens) (i : Nat) : Option Tokens :=
  (s.family? i).map fun f => { s with tokens := s.tokens ++ [f] }

def cancelFamily (s : Tokens) (f : Nat) : Tokens :=
  { s with families := s.families.modify f Token.cancel }

def cancel (s : Tokens) (i : Nat) : Tokens :=
  match s.family? i with
  | some f => s.cancelFamily f
  | none => s

section
variable {s : Tokens} {i f g : Nat}

theorem family?_lt (family : s.family? i = some f) : i < s.tokens.length :=
  (List.getElem?_eq_some_iff.mp family).1

theorem get?_eq (family : s.family? i = some f) : s.get? i = s.families[f]? := by
  simp [get?, family]

theorem getElem?_cancelFamily : (s.cancelFamily f).families[g]? =
    if f = g then (s.families[g]?).map Token.cancel else s.families[g]? := by
  simp only [cancelFamily, List.getElem?_modify]
  split <;> simp

theorem family?_cancel (s : Tokens) (i j : Nat) : (s.cancel j).family? i = s.family? i := by
  unfold cancel
  split <;> rfl

theorem get?_cancel (s : Tokens) (i j : Nat) :
    (s.cancel j).get? i = (s.get? i).map fun t => if s.family? j = s.family? i then t.cancel else t := by
  cases own : s.family? i with
  | none => simp [get?, family?_cancel, own]
  | some g =>
    rw [get?_eq own, get?_eq ((family?_cancel s i j).trans own)]
    cases named : s.family? j with
    | none => simp [cancel, named]
    | some f =>
      simp only [cancel, named, getElem?_cancelFamily, Option.some.injEq]
      split <;> simp

end

end Tokens

end FrameHost
