import FrameHost.Proofs.Shutdown.Course

/-! The verdicts that the sequences of a controller have counted. -/

set_option autoImplicit false

namespace FrameHost.Shutdown

def Happening.verdict? : Happening → Option Bool
  | .counted _ graceful => some graceful
  | _ => none

/-- The sequence of a call is past the step that counts its verdict. -/
def Call.counted (verdict : Bool) (c : Call) : Bool :=
  c.phase.closed.contains .count && c.graceful == verdict

section
variable {registry : Registry} {clock : Clock} {finalizer : Option Nat} {past : List Moment} {k : Nat}
  {c c' : Call} {e : Event} {happenings : List Happening}

theorem Call.counted_eq_false {verdict : Bool} (none : c.phase.closed = []) : c.counted verdict = false := by
  simp [counted, none]

/-- A verdict is counted in one step, and neither before nor afterwards does a step change it. -/
theorem Call.Step.counted_cases (passed : Passed past k c) (step : c.Step registry finalizer k e c' happenings) :
    (∀ verdict, c'.counted verdict = c.counted verdict) ∧ happenings.filterMap Happening.verdict? = [] ∨
    happenings = [.counted k c.graceful] ∧
      ∀ verdict, c.counted verdict = false ∧ c'.counted verdict = (c.graceful == verdict) := by
  have unclosed (before : c.phase.closed = []) (after : c'.phase.closed = []) (verdict : Bool) :
      c'.counted verdict = c.counted verdict := by
    rw [counted_eq_false before, counted_eq_false after]
  cases step with
  | acquire queued => exact .inl ⟨unclosed (by rw [queued]; rfl) rfl, rfl⟩
  | work work =>
    cases work with
    | stop found move =>
      have none : c.phase.closed = [] := by
        rcases passed.pending found move.pending.1 with phase | phase <;> rw [phase] <;> rfl
      exact .inl ⟨unclosed none none, by cases move <;> rfl⟩
    | finalize stopping =>
      refine .inl ⟨unclosed (by rw [stopping]; rfl) rfl, ?_⟩
      rw [List.filterMap_append, filterMap_failures fun _ _ => rfl]
      rfl
    | skip stopping => exact .inl ⟨unclosed (by rw [stopping]; rfl) rfl, filterMap_failures fun _ _ => rfl⟩
    | endFinalizer finalizing => exact .inl ⟨unclosed (by rw [finalizing]; rfl) rfl, rfl⟩
  | @close next closing =>
    have now (verdict : Bool) : (c.close next).counted verdict =
        (((Phase.closing next).closed ++ [next]).contains .count && c.graceful == verdict) := by
      rw [counted, Call.closed_close closing, Call.graceful_close, closing]
    have earlier (verdict : Bool) : c.counted verdict =
        ((Phase.closing next).closed.contains .count && c.graceful == verdict) := by
      rw [counted, closing]
    cases next with
    | count => exact .inr ⟨rfl, fun verdict => ⟨earlier verdict, now verdict⟩⟩
    | _ => exact .inl ⟨fun verdict => (now verdict).trans (earlier verdict).symm, rfl⟩
  | withdraw queued => exact .inl ⟨unclosed (by rw [queued]; rfl) rfl, rfl⟩
  | leave inside =>
    refine .inl ⟨unclosed ?_ rfl, rfl⟩
    rcases inside with phase | phase <;> rw [phase] <;> rfl

theorem Controller.Step.counts {s s' : Controller} (passed : ∀ k c, s.call? k = some c → Passed past k c)
    (step : Controller.Step registry clock s e s' happenings) (verdict : Bool) :
    s'.calls.countP (Call.counted verdict) =
      s.calls.countP (Call.counted verdict) + (happenings.filterMap Happening.verdict?).count verdict := by
  rcases step.calls_cases with ⟨same, -, quiet⟩ | ⟨timeout, deadline, -, rfl, -, added⟩ |
      ⟨k, c, c', found, work, changed⟩
  · have silent : happenings.filterMap Happening.verdict? = [] := by
      refine List.filterMap_eq_nil_iff.mpr fun h member => ?_
      cases h with
      | counted => cases quiet _ member
      | _ => rfl
    rw [same, silent]
    rfl
  · rw [added, List.countP_append]
    rfl
  · obtain ⟨bound, here⟩ := List.getElem?_eq_some_iff.mp found
    have least := List.boole_getElem_le_countP (p := Call.counted verdict) bound
    rw [here] at least
    rw [changed, List.countP_set bound, here]
    rcases work.counted_cases (passed k c found) with ⟨same, silent⟩ | ⟨rfl, now⟩
    · rw [same, silent, Nat.sub_add_cancel least]
      rfl
    · change _ = _ + [c.graceful].count verdict
      rw [(now verdict).1, (now verdict).2, List.count_singleton]
      rfl

end

end FrameHost.Shutdown
