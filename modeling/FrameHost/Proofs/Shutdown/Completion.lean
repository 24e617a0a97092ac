import FrameHost.Proofs.Shutdown.Rank

/-! Calls that nobody gives up do not get stuck: as long as one has not ended there is something to be
done, and the work that is left becomes less. -/

set_option autoImplicit false

namespace FrameHost.Shutdown

def total {α : Type} (weight : α → Nat) : List α → Nat
  | [] => 0
  | a :: rest => weight a + total weight rest

section
variable {α : Type} {weight : α → Nat} {l : List α} {a b : α} {i n : Nat}

theorem total_set_lt (found : l[i]? = some a) (less : weight b < weight a) :
    total weight (l.set i b) < total weight l := by
  induction l generalizing i with
  | nil => cases found
  | cons first rest ih =>
    cases i with
    | zero =>
      cases found
      simp only [List.set_cons_zero, total]
      omega
    | succ i =>
      have smaller := ih found
      simp only [List.set_cons_succ, total]
      omega

theorem total_replicate : total weight (List.replicate n a) = n * weight a := by
  induction n with
  | zero => simp [total]
  | succ n ih => simp only [List.replicate_succ, total, ih, Nat.succ_mul, Nat.add_comm]

end

def Stop.left : Stop → Nat
  | .spawned => 2
  | .invoked => 1
  | _ => 0

/-- How many steps of a call are left at most, if its sequence finds that many frames. -/
def Call.left (frames : Nat) (c : Call) : Nat :=
  match c.phase with
  | .queued => frames * 2 + 9
  | .stopping => total Stop.left c.stops + 8
  | .finalizing => 7
  | .closing next => 12 - next.rank
  | .ended _ | .abandoned => 0

theorem Call.left_close {c : Call} {next : Closing} (closing : c.phase = .closing next) (frames : Nat) :
    (c.close next).left frames < c.left frames := by
  simp only [Call.left, closing]
  cases next <;> simp [Call.close, Closing.rank]

namespace Controller
variable {registry : Registry} {clock : Clock} {s : Controller} {n k : Nat} {c : Call}

def left (frames : Nat) (s : Controller) : Nat := total (Call.left frames) s.calls

/-- What can be done next for a call that has not ended. -/
structure Advances (registry : Registry) (clock : Clock) (s : Controller) (e : Event) (s' : Controller)
    (happenings : List Happening) : Prop where
  step : Step registry clock s e s' happenings
  concerns : ∃ k, e.call? = some k
  kept : ∀ k, e ≠ .abandon k
  less : s'.left registry.size < s.left registry.size

theorem Advances.work {e : Event} {c' : Call} {happenings : List Happening}
    (found : s.call? k = some c) (work : c.Work registry s.finalizer k e c' happenings)
    (less : c'.left registry.size < c.left registry.size) :
    Advances registry clock s e (s.setCall k c') happenings where
  step := .work found work
  concerns := ⟨k, work.event_call?⟩
  kept j same := by
    cases work with
    | stop here move => cases move <;> cases same
    | _ => cases same
  less := total_set_lt found less

theorem advances_stopping (found : s.call? k = some c) (stopping : c.phase = .stopping)
    (sized : c.stops.length ≤ registry.size) :
    ∃ e s' happenings, Advances registry clock s e s' happenings := by
  have move {i : Nat} {stop next : Stop} {e : Event} {h : Happening} (here : c.stops[i]? = some stop)
      (moves : stop.Move registry k i c.token.deadline e next h) (less : next.left < stop.left) :
      ∃ e s' happenings, Advances registry clock s e s' happenings := by
    refine ⟨_, _, _, Advances.work found (.stop here moves) ?_⟩
    have smaller := total_set_lt here less
    simp only [Call.left, stopping]
    omega
  cases ended : c.stops.all Stop.ended with
  | true =>
    cases set : s.finalizer with
    | none =>
      refine ⟨_, _, _, Advances.work found (.skip stopping ended set) ?_⟩
      simp only [Call.left, stopping, Closing.rank]
      omega
    | some f =>
      refine ⟨_, _, _, Advances.work found (.finalize stopping ended set) ?_⟩
      simp only [Call.left, stopping]
      omega
  | false =>
    obtain ⟨stop, member, unended⟩ := List.all_eq_false.mp ended
    obtain ⟨i, here⟩ := List.mem_iff_getElem?.mp member
    have bound : i < registry.frames.length := by
      have := (List.getElem?_eq_some_iff.mp here).1
      exact Nat.lt_of_lt_of_le this sized
    cases stop with
    | spawned => exact move here .invoke (by decide)
    | invoked =>
      have returns : Stop.Move registry k i c.token.deadline .invoked (.finish k i true)
          (.returned true) _ := .finish (List.getElem?_eq_getElem bound)
      exact move here returns (by decide)
    | _ => exact (unended rfl).elim

theorem Admitted.advances (admitted : s.Admitted n) (found : s.call? k = some c)
    (unended : ∀ report, c.phase ≠ .ended report)
    (sized : ∀ k c, s.call? k = some c → c.stops.length ≤ registry.size) :
    ∃ e s' happenings, Advances registry clock s e s' happenings := by
  -- Whoever waits, something can be done for the call that holds the lock or is the next to get it.
  rcases admitted.front found unended with ⟨d, -, free, first, other, queued⟩ | ⟨j, d, -, other, inside⟩
  · refine ⟨_, _, _, .acquire other free first queued, ⟨n, rfl⟩, (fun k same => by cases same),
      total_set_lt other ?_⟩
    simp only [Call.left, queued, Call.begun, total_replicate, Stop.left]
    omega
  · cases phase : d.phase with
    | stopping => exact advances_stopping other phase (sized j d other)
    | finalizing =>
      have well : d.Work registry s.finalizer j (.endFinalizer j .ok) _ _ := .endFinalizer phase
      refine ⟨_, _, _, Advances.work other well ?_⟩
      simp [Call.left, phase, Closing.rank]
    | closing next =>
      refine ⟨_, _, _, .close other phase, ⟨j, rfl⟩, (fun k same => by cases same), ?_⟩
      have less := total_set_lt other (Call.left_close phase registry.size)
      rwa [← calls_closeStep] at less
    | _ => simp [phase, Phase.inside] at inside

theorem Run.sized {start : Controller} {past : List Moment} (run : Run start past s)
    (unused : start.calls = []) (grown : ∀ m ∈ past, m.registry.frames <+: registry.frames) :
    ∀ k c, s.call? k = some c → c.stops.length ≤ registry.size := by
  intro k c found
  cases run.begun unused k c found with
  | never _ stops => simp [stops]
  | @once m begun size =>
    rw [size]
    exact (grown m (mem_of_occurrences begun).1).length_le

end Controller

end FrameHost.Shutdown
