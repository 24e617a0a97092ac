import FrameHost.Proofs.Shutdown.Queue
import FrameHost.Proofs.Shutdown.Timing

/-! What a call leaves behind when its caller gives it up.

A call that is given up gives the lock back, and its finalizer goes with it. The stops of frames that it
has begun are tasks of their own and live on. So a call with such a task holds the lock, or was deserted
while it waited at its barrier. -/

set_option autoImplicit false

namespace FrameHost.Shutdown

def Happening.invoked? : Happening → Option (Nat × Nat)
  | .invoked k i _ => some (k, i)
  | _ => none

def Happening.finalizes? : Happening → Option Nat
  | .finalizerCalled k _ _ => some k
  | _ => none

/-- The call whose finalizer, if it has begun, is over: it has ended, or the call was given up and it was
dropped with that. -/
def Happening.finalized? : Happening → Option Nat
  | .finalizerEnded k _ | .released k => some k
  | _ => none

/-- The shutdown of a frame was invoked by a call and has neither returned nor panicked yet. -/
def InFlight (past : List Moment) (k i : Nat) : Prop :=
  (∃ h ∈ trace past, h.invoked? = some (k, i)) ∧ ∀ h ∈ trace past, h.stopped? ≠ some (k, i)

/-- The finalizer was called by a call and is not over yet. -/
def FinalizerInFlight (past : List Moment) (k : Nat) : Prop :=
  (∃ h ∈ trace past, h.finalizes? = some k) ∧ ∀ h ∈ trace past, h.finalized? ≠ some k

instance (past : List Moment) (k i : Nat) : Decidable (InFlight past k i) :=
  inferInstanceAs (Decidable (_ ∧ _))

instance (past : List Moment) (k : Nat) : Decidable (FinalizerInFlight past k) :=
  inferInstanceAs (Decidable (_ ∧ _))

/-- A call was given up while it waited for the frames at its barrier. -/
def Deserted (past : List Moment) (k : Nat) : Prop :=
  ∃ m ∈ past, m.event = .abandon k ∧ ∃ c, m.before.call? k = some c ∧ c.phase = .stopping

/-- What is left of a call that was given up: nothing if it still queued, and otherwise the stops that had
not ended, if it waited for those. -/
inductive GivenUp (past : List Moment) (k : Nat) (c : Call) : Prop where
  | queued (quiet : ∀ h ∈ trace past, h.call? ≠ some k) (stops : c.stops = [])
  | inside (released : .released k ∈ trace past)
      (left : c.stops.all Stop.ended = true ∨ Deserted past k)

section
variable {registry : Registry} {clock : Clock} {before s start : Controller} {e : Event}
  {happenings : List Happening} {past : List Moment} {k i : Nat} {c c' : Call}

theorem Deserted.append (deserted : Deserted past k) (more : List Moment) : Deserted (past ++ more) k := by
  obtain ⟨m, member, rest⟩ := deserted
  exact ⟨m, List.mem_append_left _ member, rest⟩

theorem GivenUp.left {m : Moment} (given : GivenUp past k c) (quiet : ∀ h ∈ m.happenings, h.call? ≠ some k) :
    GivenUp (past ++ [m]) k c := by
  cases given with
  | queued silent stops =>
    refine .queued (fun h member => ?_) stops
    rcases List.mem_append.mp (trace_concat past m ▸ member) with old | new
    · exact silent h old
    · exact quiet h new
  | inside released left =>
    refine .inside ?_ (left.imp id fun deserted => deserted.append _)
    rw [trace_concat]
    exact List.mem_append_left _ released

theorem GivenUp.stop {j : Nat} {stop next : Stop} {h : Happening} {m : Moment} (given : GivenUp past k c)
    (found : c.stops[j]? = some stop) (move : stop.Move registry k j c.token.deadline e next h) :
    GivenUp (past ++ [m]) k { c with stops := c.stops.set j next, graceful := c.graceful && next.clean } := by
  cases given with
  | queued quiet stops => simp [stops] at found
  | inside released left =>
    refine .inside ?_ (.inr (Deserted.append (left.resolve_left fun ended => ?_) _))
    · rw [trace_concat]
      exact List.mem_append_left _ released
    · have through := List.all_eq_true.mp ended stop (List.mem_of_getElem? found)
      exact Bool.false_ne_true (move.pending.1.symm.trans through)

theorem GivenUp.withdraw {m : Moment} (begun : Begun past k c) (queued : c.phase = .queued)
    (silent : m.happenings = []) : GivenUp (past ++ [m]) k { c with phase := .abandoned } := by
  cases begun with
  | never _ stops _ quiet => exact .queued (by simpa [silent] using quiet) stops
  | once _ _ inside => exact (inside queued).elim

theorem GivenUp.leave {m : Moment} (passed : Passed past k c) (found : m.before.call? k = some c)
    (event : m.event = .abandon k) (happened : m.happenings = [.released k])
    (inside : c.phase = .stopping ∨ c.phase = .finalizing) :
    GivenUp (past ++ [m]) k { c with phase := .abandoned } := by
  refine .inside (by simp [happened]) ?_
  rcases inside with stopping | finalizing
  · exact .inr ⟨m, by simp, event, c, found, stopping⟩
  · obtain ⟨_, _, ended, -⟩ := passed.of_finalizing finalizing
    exact .inl ended

theorem Controller.Run.givenUp (run : Controller.Run start past s) (unused : start.calls = []) :
    ∀ k c, s.call? k = some c → c.phase = .abandoned → GivenUp past k c := by
  induction run with
  | start =>
    intro k c found
    simp [call?, unused] at found
  | @step past s s' registry clock e happenings run later stepped ih =>
    intro k c' now abandoned
    rcases (Step.of_step stepped).call_cases now with ⟨same, -, quiet⟩ | ⟨_, _, -, -, -, -, rfl⟩ |
        ⟨c, found, work⟩
    · exact (ih k c' same abandoned).left quiet
    · cases abandoned
    · cases work with
      | work work =>
        cases work with
        | stop here move => exact (ih k c found abandoned).stop here move
        | _ => cases abandoned
      | @close next => cases next <;> cases abandoned
      | withdraw queued => exact .withdraw (run.begun unused k c found) queued rfl
      | leave inside => exact .leave (run.passed unused k c found) found rfl rfl inside
      | acquire => cases abandoned

theorem mem_stopTrace {h : Happening} : h ∈ stopTrace past k i ↔ h ∈ trace past ∧ h.stop? = some (k, i) := by
  simp [stopTrace]

theorem stop?_of_invoked? {h : Happening} (invoked : h.invoked? = some (k, i)) : h.stop? = some (k, i) := by
  cases h <;> cases invoked
  rfl

theorem InFlight.stop (flight : InFlight past k i) (begun : Begun past k c) : c.stops[i]? = some .invoked := by
  obtain ⟨⟨h, member, invoked⟩, open_⟩ := flight
  have stop := stop?_of_invoked? invoked
  cases begun with
  | never _ _ _ quiet => exact (quiet h member (call?_of_stop? stop)).elim
  | @once m _ _ _ stops others =>
    have inStops : h ∈ stopTrace past k i := mem_stopTrace.mpr ⟨member, stop⟩
    rcases Nat.lt_or_ge i m.registry.size with bound | beyond
    · obtain ⟨stop, found, history⟩ := stops i _ (List.getElem?_eq_getElem bound)
      -- An end of this stop would be part of its history.
      have unended {ending : Happening} (ends : ending.stopped? = some (k, i)) : ending ∉ stop.history k i _ _ :=
        fun told => open_ ending (mem_stopTrace.mp (history ▸ told)).1 ends
      rw [found]
      cases stop with
      | spawned => simp [history, Stop.history] at inStops
      | invoked => rfl
      | returned graceful => exact (unended rfl (List.mem_cons_of_mem _ (List.mem_singleton_self _))).elim
      | panicked message => exact (unended rfl (List.mem_cons_of_mem _ (List.mem_singleton_self _))).elim
    · simp [others i beyond] at inStops

theorem Begun.invoked_once (begun : Begun past k c) (i : Nat) :
    (trace past).countP (fun h => h.invoked? = some (k, i)) ≤ 1 := by
  have within : (trace past).countP (fun h => h.invoked? = some (k, i)) =
      (stopTrace past k i).countP fun h => h.invoked? = some (k, i) := by
    rw [stopTrace, List.countP_filter]
    refine List.countP_congr fun h _ => ?_
    simp only [decide_eq_true_eq, Bool.and_eq_true]
    exact ⟨fun invoked => ⟨invoked, stop?_of_invoked? invoked⟩, And.left⟩
  rw [within]
  cases begun with
  | never _ _ _ quiet => simp [stopTrace_quiet quiet i]
  | @once m _ _ _ stops others =>
    rcases Nat.lt_or_ge i m.registry.size with bound | beyond
    · obtain ⟨stop, -, history⟩ := stops i _ (List.getElem?_eq_getElem bound)
      rw [history]
      cases stop <;> simp [Stop.history, Happening.invoked?]
    · simp [others i beyond]

theorem finalizer?_of_finalizes? {h : Happening} (called : h.finalizes? = some k) : h.finalizer? = some k := by
  cases h <;> cases called
  rfl

theorem FinalizerInFlight.phase (flight : FinalizerInFlight past k) (passed : Passed past k c)
    (given : c.phase = .abandoned → GivenUp past k c) : c.phase = .finalizing := by
  obtain ⟨⟨h, member, called⟩, open_⟩ := flight
  have inTrace : h ∈ finalizerTrace past k := by simp [finalizerTrace, member, finalizer?_of_finalizes? called]
  have inCourse : h ∈ course past k := by
    rw [finalizerTrace_eq] at inTrace
    exact (List.mem_filter.mp inTrace).1
  cases passed with
  | queued _ _ course => simp [course] at inCourse
  | stopping _ course =>
    rw [course, List.mem_singleton] at inCourse
    rw [inCourse] at called
    cases called
  | finalizing _ _ phase => exact phase
  | late m finalizer _ finished =>
    have history := finalizer_of_course finished.course
    cases finalizer with
    | none => simp [history, finalizerHistory] at inTrace
    | some p =>
      -- The finalizer of a call that is this far has ended.
      have ended : .finalizerEnded k p.2 ∈ finalizerTrace past k := by simp [history, finalizerHistory]
      exact (open_ _ (List.mem_filter.mp ended).1 rfl).elim
  | abandoned phase =>
    cases given phase with
    | queued quiet =>
      have concerned := (List.mem_filter.mp inCourse).2
      simp only [decide_eq_true_eq] at concerned
      exact (quiet h member concerned.1).elim
    | inside released => exact (open_ _ released rfl).elim

end

namespace Controller
variable {s : Controller} {past : List Moment} {j k i i' : Nat} {defaultTimeout : Duration}

/-- Whoever has a stop in flight holds the lock, or was deserted. -/
theorem Run.of_inFlight (run : Run { defaultTimeout } past s) (flight : InFlight past k i) :
    (∃ c, s.call? k = some c ∧ c.phase = .stopping ∧ s.holder = some k) ∨ Deserted past k := by
  obtain ⟨h, member, invoked⟩ := flight.1
  have bound := run.call_lt (.inr ⟨h, member, call?_of_stop? (stop?_of_invoked? invoked)⟩)
  have found : s.call? k = some s.calls[k] := List.getElem?_eq_getElem bound
  have here := flight.stop (run.begun rfl k _ found)
  rcases (run.passed rfl k _ found).pending here rfl with stopping | abandoned
  · exact .inl ⟨_, found, stopping, (run.queued.holder k).mpr (by rw [standing?_eq found, stopping]; rfl)⟩
  · cases run.givenUp rfl k _ found abandoned with
    | queued _ stops => simp [stops] at here
    | inside _ left =>
      exact .inr (left.resolve_left fun ended =>
        nomatch List.all_eq_true.mp ended _ (List.mem_of_getElem? here))

theorem Run.of_finalizerInFlight (run : Run { defaultTimeout } past s) (flight : FinalizerInFlight past k) :
    ∃ c, s.call? k = some c ∧ c.phase = .finalizing ∧ s.holder = some k := by
  obtain ⟨h, member, called⟩ := flight.1
  have concerned : h.call? = some k := by
    cases h <;> cases called
    rfl
  have bound := run.call_lt (.inr ⟨h, member, concerned⟩)
  have found : s.call? k = some s.calls[k] := List.getElem?_eq_getElem bound
  have phase := flight.phase (run.passed rfl k _ found) (run.givenUp rfl k _ found)
  exact ⟨_, found, phase, (run.queued.holder k).mpr (by rw [standing?_eq found, phase]; rfl)⟩

/-- Of two calls with stops in flight one was deserted. -/
theorem Run.stops_apart (run : Run { defaultTimeout } past s) (apart : j ≠ k) (first : InFlight past j i)
    (second : InFlight past k i') : Deserted past j ∨ Deserted past k := by
  rcases run.of_inFlight first with ⟨_, -, -, holds⟩ | deserted
  · rcases run.of_inFlight second with ⟨_, -, -, holds'⟩ | deserted
    · exact (apart (Option.some.inj (holds.symm.trans holds'))).elim
    · exact .inr deserted
  · exact .inl deserted

theorem Run.finalizer_apart (run : Run { defaultTimeout } past s) (finalizer : FinalizerInFlight past k)
    (stop : InFlight past j i) : Deserted past j := by
  obtain ⟨c, found, finalizing, holds⟩ := run.of_finalizerInFlight finalizer
  rcases run.of_inFlight stop with ⟨d, found', stopping, holds'⟩ | deserted
  · cases holds.symm.trans holds'
    cases found.symm.trans found'
    cases finalizing.symm.trans stopping
  · exact deserted

/-- No call invokes the shutdown of a frame twice. -/
theorem Run.invoked_once (run : Run { defaultTimeout } past s) (k i : Nat) :
    (trace past).countP (fun h => h.invoked? = some (k, i)) ≤ 1 := by
  rcases Nat.lt_or_ge k s.calls.length with bound | beyond
  · exact (run.begun rfl k _ (List.getElem?_eq_getElem bound)).invoked_once i
  · have none : (trace past).countP (fun h => h.invoked? = some (k, i)) = 0 := by
      refine List.countP_eq_zero.mpr fun h member => ?_
      simp only [decide_eq_true_eq]
      intro invoked
      have := run.call_lt (.inr ⟨h, member, call?_of_stop? (stop?_of_invoked? invoked)⟩)
      omega
    omega

end Controller

end FrameHost.Shutdown
