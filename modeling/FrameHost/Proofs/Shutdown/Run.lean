import FrameHost.Proofs.Shutdown.Step

/-! Runs of a controller, and what they say of one call.

A run keeps a moment for each of its events. The registry under a controller only grows and the
clock does not go back, whoever else works with them. `Run.calls` is the induction that later
proofs use to follow a call through a run. -/

set_option autoImplicit false

namespace FrameHost.Shutdown

def Happening.call? : Happening → Option Nat
  | .overflowed => none
  | .began k _ _ | .invoked k _ _ | .returned k _ _ _ | .panicked k _ | .stopFailed k _ _
  | .finalizerCalled k _ _ | .finalizerEnded k _ | .cancelled k | .counted k _
  | .summarized k _ _ | .logClosed k | .published k _ | .released k => some k

def Event.call? : Event → Option Nat
  | .request _ | .setFinalizer _ => none
  | .acquire k | .invoke k _ | .finish k _ _ | .panic k _ _ | .passBarrier k | .endFinalizer k _
  | .close k | .abandon k => some k

/-- An event of a run with what it met and what came of it. -/
structure Moment where
  registry : Registry
  clock : Clock
  before : Controller
  event : Event
  happenings : List Happening

def trace (past : List Moment) : List Happening := past.flatMap Moment.happenings

theorem trace_append (past more : List Moment) : trace (past ++ more) = trace past ++ trace more := by
  simp [trace]

@[simp] theorem trace_concat (past : List Moment) (m : Moment) :
    trace (past ++ [m]) = trace past ++ m.happenings := by
  simp [trace]

/-- An event that works on one call. -/
inductive Call.Step (registry : Registry) (finalizer : Option Nat) (k : Nat) (c : Call) :
    Event → Call → List Happening → Prop where
  | acquire (queued : c.phase = .queued) :
      Call.Step registry finalizer k c (.acquire k) (c.begun registry.size)
        [.began k registry.size c.timeout]
  | work {e : Event} {c' : Call} {happenings : List Happening}
      (work : c.Work registry finalizer k e c' happenings) :
      Call.Step registry finalizer k c e c' happenings
  | close {next : Closing} (closing : c.phase = .closing next) :
      Call.Step registry finalizer k c (.close k) (c.close next) [c.closes k next]
  | withdraw (queued : c.phase = .queued) :
      Call.Step registry finalizer k c (.abandon k) { c with phase := .abandoned } []
  | leave (inside : c.phase = .stopping ∨ c.phase = .finalizing) :
      Call.Step registry finalizer k c (.abandon k) { c with phase := .abandoned } [.released k]

section
variable {registry : Registry} {finalizer : Option Nat} {k : Nat} {c c' : Call} {e : Event}
  {happenings : List Happening}

theorem mem_failures {stops : List Stop} {h : Happening} :
    h ∈ Controller.failures k stops ↔
      ∃ i message, stops[i]? = some (.panicked message) ∧ h = .stopFailed k i message := by
  simp only [Controller.failures, List.mem_filterMap, Prod.exists, List.mk_mem_zipIdx_iff_getElem?]
  constructor
  · rintro ⟨stop, i, found, same⟩
    cases stop with
    | panicked message => exact ⟨i, message, found, (Option.some.inj same).symm⟩
    | _ => cases same
  · rintro ⟨i, message, found, rfl⟩
    exact ⟨_, i, found, rfl⟩

theorem not_mem_failures {stops : List Stop} {h : Happening} (other : ∀ i message, h ≠ .stopFailed k i message) :
    h ∉ Controller.failures k stops := by
  intro member
  obtain ⟨i, message, -, same⟩ := mem_failures.mp member
  exact other i message same

theorem filterMap_failures {β : Type} {f : Happening → Option β} {stops : List Stop}
    (other : ∀ i message, f (.stopFailed k i message) = none) :
    (Controller.failures k stops).filterMap f = [] := by
  refine List.filterMap_eq_nil_iff.mpr fun h member => ?_
  obtain ⟨i, message, -, rfl⟩ := mem_failures.mp member
  exact other i message

theorem call?_of_mem_failures {stops : List Stop} {h : Happening}
    (member : h ∈ Controller.failures k stops) : h.call? = some k := by
  obtain ⟨i, message, -, rfl⟩ := mem_failures.mp member
  rfl

@[simp] theorem Call.call?_closes (next : Closing) : (c.closes k next).call? = some k := by
  cases next <;> rfl

theorem Stop.Move.event_call? {i deadline : Nat} {stop next : Stop} {h : Happening}
    (move : stop.Move registry k i deadline e next h) : e.call? = some k := by
  cases move <;> rfl

theorem Stop.Move.call? {i deadline : Nat} {stop next : Stop} {h : Happening}
    (move : stop.Move registry k i deadline e next h) : h.call? = some k := by
  cases move <;> rfl

theorem Call.Work.event_call? (work : c.Work registry finalizer k e c' happenings) :
    e.call? = some k := by
  cases work with
  | stop found move => exact move.event_call?
  | _ => rfl

theorem Call.Work.call? (work : c.Work registry finalizer k e c' happenings) :
    ∀ h ∈ happenings, h.call? = some k := by
  cases work with
  | finalize =>
    intro h member
    rcases List.mem_append.mp member with failed | called
    · exact call?_of_mem_failures failed
    · rw [List.mem_singleton.mp called]
      rfl
  | skip => exact fun h => call?_of_mem_failures
  | stop found move => exact List.forall_mem_singleton.mpr move.call?
  | endFinalizer => exact List.forall_mem_singleton.mpr rfl

theorem Call.Step.event_call? (step : c.Step registry finalizer k e c' happenings) :
    e.call? = some k := by
  cases step with
  | work work => exact work.event_call?
  | _ => rfl

theorem Call.Step.call? (step : c.Step registry finalizer k e c' happenings) :
    ∀ h ∈ happenings, h.call? = some k := by
  cases step with
  | work work => exact work.call?
  | close => exact List.forall_mem_singleton.mpr (Call.call?_closes _)
  | withdraw => exact fun _ member => (List.not_mem_nil member).elim
  | _ => exact List.forall_mem_singleton.mpr rfl

end

namespace Controller
variable {registry : Registry} {clock : Clock} {s s' start : Controller} {e : Event}
  {happenings : List Happening} {past : List Moment}

theorem calls_closeStep (s : Controller) (k : Nat) (c : Call) (next : Closing) :
    (s.closeStep k c next).1.calls = s.calls.set k (c.close next) := by
  cases next <;> rfl

theorem Step.calls_cases (step : Step registry clock s e s' happenings) :
    (s'.calls = s.calls ∧ e.call? = none ∧ ∀ h ∈ happenings, h.call? = none) ∨
    (∃ timeout deadline, e = .request timeout ∧ happenings = [] ∧
      clock.deadline? (timeout.getD s.defaultTimeout) = some deadline ∧
      s'.calls = s.calls ++ [{ timeout := timeout.getD s.defaultTimeout, token := { deadline } }]) ∨
    ∃ k c c', s.call? k = some c ∧ c.Step registry s.finalizer k e c' happenings ∧
      s'.calls = s.calls.set k c' := by
  cases step with
  | request made => exact .inr (.inl ⟨_, _, rfl, rfl, made, rfl⟩)
  | overflow => exact .inl ⟨rfl, rfl, List.forall_mem_singleton.mpr rfl⟩
  | setFinalizer => exact .inl ⟨rfl, rfl, fun _ member => (List.not_mem_nil member).elim⟩
  | acquire found _ _ queued => exact .inr (.inr ⟨_, _, _, found, .acquire queued, rfl⟩)
  | work found work => exact .inr (.inr ⟨_, _, _, found, .work work, rfl⟩)
  | close found closing =>
    exact .inr (.inr ⟨_, _, _, found, .close closing, calls_closeStep _ _ _ _⟩)
  | withdraw found queued => exact .inr (.inr ⟨_, _, _, found, .withdraw queued, rfl⟩)
  | leave found inside => exact .inr (.inr ⟨_, _, _, found, .leave inside, rfl⟩)

/-- How an event bears on a call: not at all, by making it, or by working on it. -/
theorem Step.call_cases (step : Step registry clock s e s' happenings) {k : Nat} {c' : Call}
    (now : s'.call? k = some c') :
    (s.call? k = some c' ∧ e.call? ≠ some k ∧ ∀ h ∈ happenings, h.call? ≠ some k) ∨
    (∃ timeout deadline, e = .request timeout ∧ happenings = [] ∧
      clock.deadline? (timeout.getD s.defaultTimeout) = some deadline ∧ k = s.calls.length ∧
      c' = { timeout := timeout.getD s.defaultTimeout, token := { deadline } }) ∨
    ∃ c, s.call? k = some c ∧ c.Step registry s.finalizer k e c' happenings := by
  rcases step.calls_cases with ⟨same, eventless, quiet⟩ |
      ⟨timeout, deadline, rfl, rfl, made, added⟩ | ⟨j, c, c₁, found, worked, changed⟩
  · refine .inl ⟨by rwa [call?, same] at now, by simp [eventless], fun h member => ?_⟩
    simp [quiet h member]
  · rw [call?, added, List.getElem?_append] at now
    split at now
    · exact .inl ⟨now, nofun, nofun⟩
    · rename_i outside
      obtain ⟨last, rfl⟩ := List.getElem?_eq_some_iff.mp now
      simp only [List.length_singleton] at last
      exact .inr (.inl ⟨timeout, deadline, rfl, rfl, made, by omega, by simp⟩)
  · rw [call?, changed, List.getElem?_set] at now
    split at now
    · rename_i same
      subst same
      split at now
      · cases now
        exact .inr (.inr ⟨c, found, worked⟩)
      · cases now
    · rename_i other
      refine .inl ⟨now, ?_, fun h member => ?_⟩
      · simpa [worked.event_call?] using other
      · simpa [worked.call? h member] using other

inductive Run (start : Controller) : List Moment → Controller → Prop where
  | start : Run start [] start
  | step {past : List Moment} {s s' : Controller} {registry : Registry} {clock : Clock} {e : Event}
      {happenings : List Happening} (run : Run start past s)
      (later : ∀ m ∈ past, m.registry.frames <+: registry.frames ∧ m.clock.now ≤ clock.now)
      (stepped : s.step registry clock e = some (s', happenings)) :
      Run start (past ++ [⟨registry, clock, s, e, happenings⟩]) s'

theorem Step.length_le (step : Step registry clock s e s' happenings) :
    s.calls.length ≤ s'.calls.length := by
  rcases step.calls_cases with ⟨same, -, -⟩ | ⟨_, _, -, -, -, added⟩ | ⟨_, _, _, -, -, changed⟩
  · exact Nat.le_of_eq (congrArg List.length same).symm
  · simp only [added, List.length_append]
    omega
  · exact Nat.le_of_eq (by simp only [changed, List.length_set])

theorem Step.call_lt (step : Step registry clock s e s' happenings) {k : Nat}
    (concerned : e.call? = some k ∨ ∃ h ∈ happenings, h.call? = some k) : k < s.calls.length := by
  rcases step.calls_cases with ⟨-, eventless, quiet⟩ | ⟨_, _, rfl, rfl, -, -⟩ |
      ⟨j, c, c', found, worked, -⟩
  · rcases concerned with same | ⟨h, member, same⟩
    · simp [eventless] at same
    · simp [quiet h member] at same
  · rcases concerned with same | ⟨h, member, same⟩
    · cases same
    · cases member
  · -- Event and happenings are of one call, which must be the one that is set.
    have same : j = k := by
      rcases concerned with same | ⟨h, member, same⟩
      · exact Option.some.inj (worked.event_call?.symm.trans same)
      · exact Option.some.inj ((worked.call? h member).symm.trans same)
    subst same
    exact (List.getElem?_eq_some_iff.mp found).1

theorem Run.call_lt (run : Run start past s) {k : Nat}
    (concerned : (∃ m ∈ past, m.event.call? = some k) ∨ ∃ h ∈ trace past, h.call? = some k) :
    k < s.calls.length := by
  induction run with
  | start => simp [trace] at concerned
  | step run later stepped ih =>
    have step := Step.of_step stepped
    simp only [List.mem_append, List.mem_singleton, trace_concat] at concerned
    rcases concerned with ⟨m, before | rfl, same⟩ | ⟨h, before | now, same⟩
    · exact Nat.lt_of_lt_of_le (ih (.inl ⟨m, before, same⟩)) step.length_le
    · exact Nat.lt_of_lt_of_le (step.call_lt (.inl same)) step.length_le
    · exact Nat.lt_of_lt_of_le (ih (.inr ⟨h, before, same⟩)) step.length_le
    · exact Nat.lt_of_lt_of_le (step.call_lt (.inr ⟨h, now, same⟩)) step.length_le

/-- Follow every call through a run: it is made, left alone, or worked on. -/
theorem Run.calls {P : List Moment → Nat → Call → Prop} (unused : start.calls = [])
    (made : ∀ (past : List Moment) (m : Moment) (timeout : Option Duration) (deadline : Nat),
      m.event = .request timeout → m.happenings = [] →
      m.clock.deadline? (timeout.getD m.before.defaultTimeout) = some deadline →
      (∀ m' ∈ past, m'.event.call? ≠ some m.before.calls.length) →
      (∀ h ∈ trace past, h.call? ≠ some m.before.calls.length) →
      P (past ++ [m]) m.before.calls.length
        { timeout := timeout.getD m.before.defaultTimeout, token := { deadline } })
    (left : ∀ (past : List Moment) (m : Moment) (k : Nat) (c : Call), P past k c →
      m.event.call? ≠ some k → (∀ h ∈ m.happenings, h.call? ≠ some k) → P (past ++ [m]) k c)
    (worked : ∀ (past : List Moment) (registry : Registry) (clock : Clock) (before : Controller)
      (e : Event) (happenings : List Happening) (k : Nat) (c c' : Call), P past k c →
      (∀ m ∈ past, m.registry.frames <+: registry.frames) →
      c.Step registry before.finalizer k e c' happenings →
      P (past ++ [⟨registry, clock, before, e, happenings⟩]) k c')
    (run : Run start past s) : ∀ k c, s.call? k = some c → P past k c := by
  induction run with
  | start =>
    intro k c found
    simp [call?, unused] at found
  | @step past s s' registry clock e happenings run later stepped ih =>
    intro k c now
    rcases (Step.of_step stepped).call_cases now with ⟨before, eventless, quiet⟩ |
        ⟨timeout, deadline, event, none, fixed, rfl, rfl⟩ | ⟨c₀, found, work⟩
    · exact left past ⟨registry, clock, s, e, happenings⟩ k c (ih k c before) eventless quiet
    · -- The number of a new call has not been given out before, so nothing in the past concerns it.
      refine made past ⟨registry, clock, s, e, happenings⟩ timeout deadline event none fixed ?_ ?_
      · intro m member same
        exact Nat.lt_irrefl _ (run.call_lt (.inl ⟨m, member, same⟩))
      · intro h member same
        exact Nat.lt_irrefl _ (run.call_lt (.inr ⟨h, member, same⟩))
    · exact worked past registry clock s e happenings k c₀ c (ih k c₀ found)
        (fun m member => (later m member).1) work

theorem Run.moment (run : Run start past s) {m : Moment} (member : m ∈ past) :
    ∃ s', Step m.registry m.clock m.before m.event s' m.happenings := by
  induction run with
  | start => cases member
  | step run later stepped ih =>
    rcases List.mem_append.mp member with before | now
    · exact ih before
    · rw [List.mem_singleton.mp now]
      exact ⟨_, Step.of_step stepped⟩

end Controller

end FrameHost.Shutdown
