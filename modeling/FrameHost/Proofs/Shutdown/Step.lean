import FrameHost.Shutdown

/-! What an event does to a controller, case by case.

`Stop.Move` is one step of the shutdown of one frame, `Call.Work` what happens inside a sequence
without regard to the lock, and `Controller.Step` adds the queue, the lock and callers that give up.
Later proofs split on these cases and leave the executable step closed; `Step.to_step` says that there
are no more of them than can happen. -/

set_option autoImplicit false

namespace FrameHost.Shutdown

/-- Whether a stop has not returned without grace. -/
def Stop.clean : Stop → Bool
  | .returned graceful => graceful
  | _ => true

/-- The stop of a frame moves on. -/
inductive Stop.Move (registry : Registry) (k i deadline : Nat) :
    Stop → Event → Stop → Happening → Prop where
  | invoke :
      Stop.Move registry k i deadline .spawned (.invoke k i) .invoked (.invoked k i deadline)
  | finish {graceful : Bool} {id : FrameId} (registered : registry.frames[i]? = some id) :
      Stop.Move registry k i deadline .invoked (.finish k i graceful) (.returned graceful)
        (.returned k i graceful id)
  | panic {message : String} :
      Stop.Move registry k i deadline .invoked (.panic k i message) (.panicked message)
        (.panicked k i)

/-- An event inside a sequence, up to the end of its finalizer. -/
inductive Call.Work (registry : Registry) (finalizer : Option Nat) (k : Nat) (c : Call) :
    Event → Call → List Happening → Prop where
  | stop {i : Nat} {stop next : Stop} {e : Event} {h : Happening} (found : c.stops[i]? = some stop)
      (move : stop.Move registry k i c.token.deadline e next h) :
      Call.Work registry finalizer k c e
        { c with stops := c.stops.set i next, graceful := c.graceful && next.clean } [h]
  | finalize {f : Nat} (stopping : c.phase = .stopping) (ended : c.stops.all Stop.ended = true)
      (set : finalizer = some f) :
      Call.Work registry finalizer k c (.passBarrier k)
        { c with
          graceful := c.graceful && (Controller.failures k c.stops).isEmpty
          phase := .finalizing }
        (Controller.failures k c.stops ++ [.finalizerCalled k f c.token.deadline])
  | skip (stopping : c.phase = .stopping) (ended : c.stops.all Stop.ended = true)
      (unset : finalizer = none) :
      Call.Work registry finalizer k c (.passBarrier k)
        { c with
          graceful := c.graceful && (Controller.failures k c.stops).isEmpty
          phase := .closing .cancel }
        (Controller.failures k c.stops)
  | endFinalizer {outcome : Outcome} (finalizing : c.phase = .finalizing) :
      Call.Work registry finalizer k c (.endFinalizer k outcome)
        { c with graceful := c.graceful && decide (outcome = .ok), phase := .closing .cancel }
        [.finalizerEnded k outcome]

def Call.begun (c : Call) (frames : Nat) : Call :=
  { c with stops := List.replicate frames .spawned, phase := .stopping }

/-- An event of a controller. -/
inductive Controller.Step (registry : Registry) (clock : Clock) (s : Controller) :
    Event → Controller → List Happening → Prop where
  | request {timeout : Option Duration} {deadline : Nat}
      (made : clock.deadline? (timeout.getD s.defaultTimeout) = some deadline) :
      Controller.Step registry clock s (.request timeout)
        { s with
          calls := s.calls ++ [{ timeout := timeout.getD s.defaultTimeout, token := { deadline } }]
          waiting := s.waiting ++ [s.calls.length] } []
  | overflow {timeout : Option Duration}
      (late : clock.deadline? (timeout.getD s.defaultTimeout) = none) :
      Controller.Step registry clock s (.request timeout) s [.overflowed]
  | acquire {k : Nat} {c : Call} (found : s.call? k = some c) (free : s.holder = none)
      (first : s.waiting.head? = some k) (queued : c.phase = .queued) :
      Controller.Step registry clock s (.acquire k)
        { s.setCall k (c.begun registry.size) with holder := some k, waiting := s.waiting.tail }
        [.began k registry.size c.timeout]
  | work {k : Nat} {e : Event} {c c' : Call} {happenings : List Happening}
      (found : s.call? k = some c) (work : c.Work registry s.finalizer k e c' happenings) :
      Controller.Step registry clock s e (s.setCall k c') happenings
  | close {k : Nat} {c : Call} {next : Closing} (found : s.call? k = some c)
      (closing : c.phase = .closing next) :
      Controller.Step registry clock s (.close k) (s.closeStep k c next).1 [c.closes k next]
  | setFinalizer {f : Nat} :
      Controller.Step registry clock s (.setFinalizer f) { s with finalizer := some f } []
  | withdraw {k : Nat} {c : Call} (found : s.call? k = some c) (queued : c.phase = .queued) :
      Controller.Step registry clock s (.abandon k)
        { s.setCall k { c with phase := .abandoned } with waiting := s.waiting.filter (· ≠ k) } []
  | leave {k : Nat} {c : Call} (found : s.call? k = some c)
      (inside : c.phase = .stopping ∨ c.phase = .finalizing) :
      Controller.Step registry clock s (.abandon k)
        { s.setCall k { c with phase := .abandoned } with holder := none } [.released k]

namespace Controller
variable {registry : Registry} {clock : Clock} {s s' : Controller} {e : Event}
  {happenings : List Happening}

theorem Step.of_step (stepped : s.step registry clock e = some (s', happenings)) :
    Step registry clock s e s' happenings := by
  cases e with
  | request timeout =>
    simp only [step, Controller.request] at stepped
    -- This is the only event that happens in two ways: the clock may fail to express the deadline.
    cases made : clock.deadline? (timeout.getD s.defaultTimeout) with
    | none =>
      simp only [made, Option.map_none, Option.some.injEq, Prod.mk.injEq] at stepped
      obtain ⟨rfl, rfl⟩ := stepped
      exact .overflow made
    | some deadline =>
      simp only [made, Option.map_some, Option.some.injEq, Prod.mk.injEq] at stepped
      obtain ⟨rfl, rfl⟩ := stepped
      exact .request made
  | acquire k =>
    obtain ⟨c, found, stepped⟩ := Option.bind_eq_some_iff.mp stepped
    split at stepped
    · rename_i guard
      obtain ⟨rfl, rfl⟩ := Prod.mk.inj (Option.some.inj stepped)
      exact .acquire found guard.1 guard.2.1 guard.2.2
    · cases stepped
  | invoke k i =>
    obtain ⟨c, found, stepped⟩ := Option.bind_eq_some_iff.mp stepped
    split at stepped
    · rename_i spawned
      obtain ⟨rfl, rfl⟩ := Prod.mk.inj (Option.some.inj stepped)
      simpa [Stop.clean] using Step.work found (.stop spawned .invoke)
    · cases stepped
  | finish k i graceful =>
    obtain ⟨c, found, stepped⟩ := Option.bind_eq_some_iff.mp stepped
    obtain ⟨id, registered, stepped⟩ := Option.bind_eq_some_iff.mp stepped
    split at stepped
    · rename_i invoked
      obtain ⟨rfl, rfl⟩ := Prod.mk.inj (Option.some.inj stepped)
      exact .work found (.stop invoked (.finish registered))
    · cases stepped
  | panic k i message =>
    obtain ⟨c, found, stepped⟩ := Option.bind_eq_some_iff.mp stepped
    split at stepped
    · rename_i invoked
      obtain ⟨rfl, rfl⟩ := Prod.mk.inj (Option.some.inj stepped)
      simpa [Stop.clean] using Step.work found (.stop invoked .panic)
    · cases stepped
  | passBarrier k =>
    obtain ⟨c, found, stepped⟩ := Option.bind_eq_some_iff.mp stepped
    split at stepped
    · rename_i guard
      cases set : s.finalizer with
      | none =>
        simp only [set] at stepped
        obtain ⟨rfl, rfl⟩ := Prod.mk.inj (Option.some.inj stepped)
        exact .work found (.skip guard.1 guard.2 set)
      | some f =>
        simp only [set] at stepped
        obtain ⟨rfl, rfl⟩ := Prod.mk.inj (Option.some.inj stepped)
        exact .work found (.finalize guard.1 guard.2 set)
    · cases stepped
  | endFinalizer k outcome =>
    obtain ⟨c, found, stepped⟩ := Option.bind_eq_some_iff.mp stepped
    split at stepped
    · rename_i finalizing
      obtain ⟨rfl, rfl⟩ := Prod.mk.inj (Option.some.inj stepped)
      exact .work found (.endFinalizer finalizing)
    · cases stepped
  | close k =>
    obtain ⟨c, found, stepped⟩ := Option.bind_eq_some_iff.mp stepped
    split at stepped
    · rename_i next closing
      obtain ⟨rfl, rfl⟩ := Prod.mk.inj (Option.some.inj stepped)
      exact .close found closing
    · cases stepped
  | setFinalizer f =>
    obtain ⟨rfl, rfl⟩ := Prod.mk.inj (Option.some.inj stepped)
    exact .setFinalizer
  | abandon k =>
    obtain ⟨c, found, stepped⟩ := Option.bind_eq_some_iff.mp stepped
    split at stepped
    · rename_i queued
      obtain ⟨rfl, rfl⟩ := Prod.mk.inj (Option.some.inj stepped)
      exact .withdraw found queued
    · rename_i stopping
      obtain ⟨rfl, rfl⟩ := Prod.mk.inj (Option.some.inj stepped)
      exact .leave found (.inl stopping)
    · rename_i finalizing
      obtain ⟨rfl, rfl⟩ := Prod.mk.inj (Option.some.inj stepped)
      exact .leave found (.inr finalizing)
    · cases stepped

/-- Every case can happen. -/
theorem Step.to_step (happened : Step registry clock s e s' happenings) :
    s.step registry clock e = some (s', happenings) := by
  cases happened with
  | request made => simp [step, Controller.request, made]
  | overflow late => simp [step, Controller.request, late]
  | acquire found free first queued => simp [step, found, free, first, queued, Call.begun]
  | work found work =>
    cases work with
    | stop here move =>
      cases move with
      | invoke => simp [step, found, here, Stop.clean]
      | finish registered => simp [step, found, here, registered, Stop.clean]
      | panic => simp [step, found, here, Stop.clean]
    | finalize stopping ended set =>
      simp only [step, found, set]
      exact if_pos ⟨stopping, ended⟩
    | skip stopping ended unset =>
      simp only [step, found, unset]
      exact if_pos ⟨stopping, ended⟩
    | endFinalizer finalizing => simp [step, found, finalizing]
  | close found closing => simp [step, found, closing, closeStep]
  | setFinalizer => rfl
  | withdraw found queued => simp [step, found, queued]
  | leave found inside => rcases inside with phase | phase <;> simp [step, found, phase]

end Controller

end FrameHost.Shutdown
