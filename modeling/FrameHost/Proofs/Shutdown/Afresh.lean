import FrameHost.Proofs.Shutdown.Course
import FrameHost.Proofs.Shutdown.Lock

/-! A controller whose calls have all ended works on as a new one would.

Its later calls are numbered behind the old ones. No event can work on a call that has ended, so apart
from the numbers nothing of the old calls is to be seen in what follows. -/

set_option autoImplicit false

namespace FrameHost.Shutdown

/-- An event of a controller with so many calls before. -/
def Event.later (n : Nat) : Event → Event
  | .request timeout => .request timeout
  | .acquire k => .acquire (n + k)
  | .invoke k i => .invoke (n + k) i
  | .finish k i graceful => .finish (n + k) i graceful
  | .panic k i message => .panic (n + k) i message
  | .passBarrier k => .passBarrier (n + k)
  | .endFinalizer k outcome => .endFinalizer (n + k) outcome
  | .close k => .close (n + k)
  | .setFinalizer f => .setFinalizer f
  | .abandon k => .abandon (n + k)

def Happening.later (n : Nat) : Happening → Happening
  | .overflowed => .overflowed
  | .began k frames timeout => .began (n + k) frames timeout
  | .invoked k i deadline => .invoked (n + k) i deadline
  | .returned k i graceful id => .returned (n + k) i graceful id
  | .panicked k i => .panicked (n + k) i
  | .stopFailed k i message => .stopFailed (n + k) i message
  | .finalizerCalled k f deadline => .finalizerCalled (n + k) f deadline
  | .finalizerEnded k outcome => .finalizerEnded (n + k) outcome
  | .cancelled k => .cancelled (n + k)
  | .counted k graceful => .counted (n + k) graceful
  | .summarized k frames graceful => .summarized (n + k) frames graceful
  | .logClosed k => .logClosed (n + k)
  | .published k report => .published (n + k) report
  | .released k => .released (n + k)

/-- An event with the registry and the clock that it meets. -/
structure Occasion where
  registry : Registry
  clock : Clock
  event : Event

def Occasion.later (n : Nat) (o : Occasion) : Occasion := { o with event := o.event.later n }

section
variable {registry : Registry} {finalizer : Option Nat} {k n : Nat} {c c' : Call} {e : Event}
  {happenings : List Happening}

theorem failures_later (stops : List Stop) :
    Controller.failures (n + k) stops = (Controller.failures k stops).map (Happening.later n) := by
  unfold Controller.failures
  rw [List.map_filterMap]
  congr 1
  funext ⟨stop, i⟩
  cases stop <;> rfl

theorem Call.closes_later (next : Closing) : c.closes (n + k) next = (c.closes k next).later n := by
  cases next <;> rfl

theorem Stop.Move.later {i deadline : Nat} {stop next : Stop} {h : Happening}
    (move : stop.Move registry k i deadline e next h) :
    stop.Move registry (n + k) i deadline (e.later n) next (h.later n) := by
  cases move with
  | invoke => exact .invoke
  | finish registered => exact .finish registered
  | panic => exact .panic

theorem Stop.Move.of_later {i deadline : Nat} {stop next : Stop} {h : Happening}
    (move : stop.Move registry (n + k) i deadline e next h) :
    ∃ e' h', e = e'.later n ∧ h = h'.later n ∧ stop.Move registry k i deadline e' next h' := by
  cases move with
  | invoke => exact ⟨.invoke k i, _, rfl, rfl, .invoke⟩
  | finish registered => exact ⟨.finish k i _, _, rfl, rfl, .finish registered⟩
  | panic => exact ⟨.panic k i _, _, rfl, rfl, .panic⟩

@[simp] theorem isEmpty_failures_later (stops : List Stop) :
    (Controller.failures (n + k) stops).isEmpty = (Controller.failures k stops).isEmpty := by
  rw [failures_later, List.isEmpty_map]

theorem Call.Work.later (work : c.Work registry finalizer k e c' happenings) :
    c.Work registry finalizer (n + k) (e.later n) c' (happenings.map (Happening.later n)) := by
  cases work with
  | stop found move => exact .stop found move.later
  | finalize stopping ended set =>
    have there : c.Work registry finalizer (n + k) (.passBarrier (n + k)) _ _ :=
      .finalize stopping ended set
    simpa [failures_later, Event.later, Happening.later] using there
  | skip stopping ended unset =>
    have there : c.Work registry finalizer (n + k) (.passBarrier (n + k)) _ _ :=
      .skip stopping ended unset
    simpa [failures_later, Event.later] using there
  | endFinalizer finalizing => exact .endFinalizer finalizing

theorem Call.Work.of_later (work : c.Work registry finalizer (n + k) e c' happenings) :
    ∃ e' happenings', e = e'.later n ∧ happenings = happenings'.map (Happening.later n) ∧
      c.Work registry finalizer k e' c' happenings' := by
  cases work with
  | stop found move =>
    obtain ⟨e', h', rfl, rfl, move'⟩ := move.of_later
    exact ⟨e', [h'], rfl, rfl, .stop found move'⟩
  | finalize stopping ended set =>
    rw [isEmpty_failures_later, failures_later]
    exact ⟨.passBarrier k, _ ++ [.finalizerCalled k _ _], rfl, by simp [Happening.later],
      .finalize stopping ended set⟩
  | skip stopping ended unset =>
    rw [isEmpty_failures_later, failures_later]
    exact ⟨.passBarrier k, _, rfl, rfl, .skip stopping ended unset⟩
  | endFinalizer finalizing => exact ⟨.endFinalizer k _, [_], rfl, rfl, .endFinalizer finalizing⟩

end

namespace Controller

def play? (s : Controller) : List Occasion → Option (Controller × List Happening)
  | [] => some (s, [])
  | o :: rest => do
    let (s', happenings) ← s.step o.registry o.clock o.event
    let (last, more) ← s'.play? rest
    some (last, happenings ++ more)

def fresh (s : Controller) : Controller := { defaultTimeout := s.defaultTimeout, finalizer := s.finalizer }

/-- A controller with the calls of another one before its own. -/
def after (old s : Controller) : Controller :=
  { s with
    calls := old.calls ++ s.calls
    waiting := s.waiting.map (old.calls.length + ·)
    holder := s.holder.map (old.calls.length + ·)
    published := s.published.or old.published }

def Closed (s : Controller) : Prop :=
  ∀ k c, s.call? k = some c → (∃ report, c.phase = .ended report) ∧ c.stops.all Stop.ended = true

variable {registry : Registry} {clock : Clock} {old s s' start : Controller} {e : Event}
  {happenings : List Happening} {k n : Nat} {c : Call}

@[simp] theorem call?_after : (old.after s).call? (old.calls.length + k) = s.call? k := by
  simp [call?, after, List.getElem?_append_right]

@[simp] theorem setCall_after :
    (old.after s).setCall (old.calls.length + k) c = old.after (s.setCall k c) := by
  simp [setCall, after, List.set_append_right]

theorem call?_after_cases (found : (old.after s).call? k = some c) :
    old.call? k = some c ∨ ∃ j, k = old.calls.length + j ∧ s.call? j = some c := by
  rcases Nat.lt_or_ge k old.calls.length with before | own
  · refine .inl ?_
    simpa [call?, after, List.getElem?_append_left before] using found
  · obtain ⟨j, rfl⟩ := Nat.exists_eq_add_of_le own
    exact .inr ⟨j, rfl, by simpa using found⟩

theorem closeStep_after (next : Closing) :
    ((old.after s).closeStep (old.calls.length + k) c next).1 = old.after (s.closeStep k c next).1 := by
  cases next <;> simp [closeStep, after, setCall, List.set_append_right]

theorem request_after {timeout : Duration} {token : Token} :
    { old.after s with
      calls := (old.after s).calls ++ [{ timeout, token }]
      waiting := (old.after s).waiting ++ [(old.after s).calls.length] } =
    old.after { s with calls := s.calls ++ [{ timeout, token }], waiting := s.waiting ++ [s.calls.length] } := by
  simp [after]

theorem acquire_after {frames : Nat} :
    { (old.after s).setCall (old.calls.length + k) (c.begun frames) with
      holder := some (old.calls.length + k), waiting := (old.after s).waiting.tail } =
    old.after { s.setCall k (c.begun frames) with holder := some k, waiting := s.waiting.tail } := by
  simp [after, setCall, List.set_append_right]

theorem withdraw_after :
    { (old.after s).setCall (old.calls.length + k) c with
      waiting := (old.after s).waiting.filter (· ≠ old.calls.length + k) } =
    old.after { s.setCall k c with waiting := s.waiting.filter (· ≠ k) } := by
  simp [after, setCall, List.set_append_right, List.filter_map, Function.comp_def]

theorem leave_after :
    { (old.after s).setCall (old.calls.length + k) c with holder := none } =
    old.after { s.setCall k c with holder := none } := by
  simp [after, setCall, List.set_append_right]

/-- What a controller does it can also do with old calls before its own. -/
theorem Step.after (step : Step registry clock s e s' happenings) :
    Step registry clock (old.after s) (e.later old.calls.length) (old.after s')
      (happenings.map (Happening.later old.calls.length)) := by
  cases step with
  | request made =>
    rw [← request_after]
    exact .request made
  | overflow late => exact .overflow late
  | acquire found free first queued =>
    rw [← acquire_after]
    refine .acquire (call?_after.trans found) ?_ ?_ queued
    · simp [Controller.after, free]
    · simp [Controller.after, List.head?_map, first]
  | work found work =>
    rw [← setCall_after]
    exact .work (call?_after.trans found) work.later
  | @close k c next found closing =>
    rw [← closeStep_after, List.map_singleton, ← Call.closes_later]
    exact .close (call?_after.trans found) closing
  | setFinalizer => exact .setFinalizer
  | withdraw found queued =>
    rw [← withdraw_after]
    exact .withdraw (call?_after.trans found) queued
  | leave found inside =>
    rw [← leave_after]
    exact .leave (call?_after.trans found) inside

theorem Closed.not_step (closed : old.Closed) (registry : Registry) (finalizer : Option Nat) {c' : Call}
    (found : old.call? k = some c) (work : c.Step registry finalizer k e c' happenings) : False := by
  obtain ⟨⟨report, ended⟩, all⟩ := closed k c found
  cases work with
  | acquire queued => simp [ended] at queued
  | work work =>
    cases work with
    | stop here move =>
      have stopped := List.all_eq_true.mp all _ (List.mem_of_getElem? here)
      cases move <;> cases stopped
    | finalize stopping => simp [ended] at stopping
    | skip stopping => simp [ended] at stopping
    | endFinalizer finalizing => simp [ended] at finalizing
  | close closing => simp [ended] at closing
  | withdraw queued => simp [ended] at queued
  | leave inside => simp [ended] at inside

/-- With old calls that are over before its own, a controller cannot do anything else. -/
theorem Step.of_after (closed : old.Closed) (step : Step registry clock (old.after s) e s' happenings) :
    ∃ e' t happenings', e = e'.later old.calls.length ∧ s' = old.after t ∧
      happenings = happenings'.map (Happening.later old.calls.length) ∧
      Step registry clock s e' t happenings' := by
  cases step with
  | @request timeout deadline made =>
    rw [request_after]
    exact ⟨.request timeout, _, [], rfl, rfl, rfl, .request made⟩
  | @overflow timeout late => exact ⟨.request timeout, s, [_], rfl, rfl, rfl, .overflow late⟩
  | acquire found free first queued =>
    rcases call?_after_cases found with past | ⟨j, rfl, own⟩
    · exact (closed.not_step registry s.finalizer past (.acquire queued)).elim
    · rw [acquire_after]
      refine ⟨.acquire j, _, [_], rfl, rfl, rfl, .acquire own ?_ ?_ queued⟩
      · simpa [Controller.after] using free
      · simpa [Controller.after, List.head?_map] using first
  | work found work =>
    rcases call?_after_cases found with past | ⟨j, rfl, own⟩
    · exact (closed.not_step registry s.finalizer past (.work work)).elim
    · obtain ⟨e', happenings', rfl, rfl, work'⟩ := work.of_later
      rw [setCall_after]
      exact ⟨e', _, happenings', rfl, rfl, rfl, .work own work'⟩
  | close found closing =>
    rcases call?_after_cases found with past | ⟨j, rfl, own⟩
    · exact (closed.not_step registry s.finalizer past (.close closing)).elim
    · rw [closeStep_after, Call.closes_later]
      exact ⟨.close j, _, [_], rfl, rfl, rfl, .close own closing⟩
  | @setFinalizer f => exact ⟨.setFinalizer f, _, [], rfl, rfl, rfl, .setFinalizer⟩
  | withdraw found queued =>
    rcases call?_after_cases found with past | ⟨j, rfl, own⟩
    · exact (closed.not_step registry s.finalizer past (.withdraw queued)).elim
    · rw [withdraw_after]
      exact ⟨.abandon j, _, [], rfl, rfl, rfl, .withdraw own queued⟩
  | leave found inside =>
    rcases call?_after_cases found with past | ⟨j, rfl, own⟩
    · exact (closed.not_step registry s.finalizer past (.leave inside)).elim
    · rw [leave_after]
      exact ⟨.abandon j, _, [_], rfl, rfl, rfl, .leave own inside⟩

theorem play?_cons_iff {o : Occasion} {rest : List Occasion} {last : Controller} :
    s.play? (o :: rest) = some (last, happenings) ↔
      ∃ s' first more, Step o.registry o.clock s o.event s' first ∧ s'.play? rest = some (last, more) ∧
        happenings = first ++ more := by
  constructor
  · intro played
    obtain ⟨⟨s', first⟩, stepped, played⟩ := Option.bind_eq_some_iff.mp played
    obtain ⟨⟨last', more⟩, later, result⟩ := Option.bind_eq_some_iff.mp played
    cases result
    exact ⟨s', first, more, .of_step stepped, later, rfl⟩
  · rintro ⟨s', first, more, step, later, rfl⟩
    simp [play?, step.to_step, later]

theorem play?_after (closed : old.Closed) {occasions : List Occasion} {last : Controller} :
    (old.after s).play? occasions = some (last, happenings) ↔
      ∃ same t happened, occasions = same.map (Occasion.later old.calls.length) ∧ last = old.after t ∧
        happenings = happened.map (Happening.later old.calls.length) ∧
        s.play? same = some (t, happened) := by
  induction occasions generalizing s happenings with
  | nil =>
    constructor
    · intro played
      cases played
      exact ⟨[], s, [], rfl, rfl, rfl, rfl⟩
    · rintro ⟨same, t, happened, none, rfl, rfl, played⟩
      cases List.map_eq_nil_iff.mp none.symm
      cases played
      rfl
  | cons o rest ih =>
    constructor
    · intro played
      obtain ⟨s', first, more, step, later, rfl⟩ := play?_cons_iff.mp played
      -- The first event cannot have worked on an old call, so it is one of the later ones.
      obtain ⟨e, t, happened, event, rfl, rfl, own⟩ := step.of_after closed
      obtain ⟨same, t', happened', rfl, rfl, rfl, ahead⟩ := ih.mp later
      refine ⟨{ o with event := e } :: same, t', happened ++ happened', ?_, rfl, by simp, ?_⟩
      · simp [Occasion.later, ← event]
      · exact play?_cons_iff.mpr ⟨t, happened, happened', own, ahead, rfl⟩
    · rintro ⟨same, t, happened, split, rfl, rfl, played⟩
      cases same with
      | nil => cases split
      | cons o' same =>
        obtain ⟨rfl, rfl⟩ := List.cons.inj split
        obtain ⟨s', first, more, step, later, rfl⟩ := play?_cons_iff.mp played
        refine play?_cons_iff.mpr ⟨_, _, _, step.after, ?_, List.map_append⟩
        exact ih.mpr ⟨same, t, more, rfl, rfl, rfl, later⟩

theorem Run.closed {past : List Moment} (run : Run start past s) (unused : start.calls = [])
    (ended : ∀ k c, s.call? k = some c → ∃ report, c.phase = .ended report) : s.Closed := by
  intro k c found
  obtain ⟨report, phase⟩ := ended k c found
  obtain ⟨m, finalizer, finished⟩ := (run.passed unused k c found).of_late (by rw [phase]; rfl)
  exact ⟨⟨report, phase⟩, finished.ended⟩

theorem Admitted.idle (admitted : s.Admitted n)
    (ended : ∀ k c, s.call? k = some c → ∃ report, c.phase = .ended report) :
    s.holder = none ∧ s.waiting = [] := by
  have through : n = s.calls.length := by
    rcases Nat.lt_or_eq_of_le admitted.limit with more | all
    · have found : s.call? n = some s.calls[n] := List.getElem?_eq_getElem more
      obtain ⟨report, phase⟩ := ended n _ found
      simp [admitted.queued n _ found (Nat.le_refl _)] at phase
    · exact all
  refine ⟨?_, by simp [admitted.waiting, through]⟩
  cases holder : s.holder with
  | none => rfl
  | some k =>
    have bound : k < s.calls.length := by
      have := admitted.holder k holder
      omega
    have found : s.call? k = some s.calls[k] := List.getElem?_eq_getElem bound
    obtain ⟨report, phase⟩ := ended k _ found
    have inside := admitted.inside k _ found holder
    simp [phase, Phase.inside] at inside

theorem after_fresh (free : s.holder = none) (empty : s.waiting = []) : s.after s.fresh = s := by
  cases s
  cases free
  cases empty
  simp [after, fresh]

/-- A controller does what a new one would do. -/
structure Afresh (s : Controller) : Prop where
  /-- The numbers of the calls apart, what happens is what would happen to a new controller. Only the
  last report is still there as long as there is no other. -/
  alike : ∀ occasions last happenings, s.play? occasions = some (last, happenings) ↔
    ∃ same t happened, occasions = same.map (Occasion.later s.calls.length) ∧ last = s.after t ∧
      happenings = happened.map (Happening.later s.calls.length) ∧
      s.fresh.play? same = some (t, happened)
  /-- A call that can be made gets the lock at once, with nothing held against it. -/
  turn : ∀ (registry registry' : Registry) (clock clock' : Clock) (timeout : Option Duration)
    (deadline : Nat), clock.deadline? (timeout.getD s.defaultTimeout) = some deadline →
    ∃ t, s.play? [⟨registry, clock, .request timeout⟩, ⟨registry', clock', .acquire s.calls.length⟩] =
        some (t, [.began s.calls.length registry'.size (timeout.getD s.defaultTimeout)]) ∧
      t.holder = some s.calls.length ∧
      t.call? s.calls.length = some
        { timeout := timeout.getD s.defaultTimeout
          token := { deadline }
          stops := List.replicate registry'.size .spawned
          graceful := true
          phase := .stopping }

theorem Run.afresh {past : List Moment} {defaultTimeout : Duration} (run : Run { defaultTimeout } past s)
    (kept : ∀ m ∈ past, ∀ k, m.event ≠ .abandon k)
    (ended : ∀ k c, s.call? k = some c → ∃ report, c.phase = .ended report) : s.Afresh := by
  obtain ⟨n, admitted⟩ := run.admitted kept
  obtain ⟨free, empty⟩ := admitted.idle ended
  -- With a free lock and nobody waiting, a controller is what a new one is after the old calls.
  have self := after_fresh free empty
  constructor
  · intro occasions last happenings
    have same : (s.after s.fresh).play? occasions = some (last, happenings) ↔ _ :=
      play?_after (run.closed rfl ended)
    rwa [self] at same
  · intro registry registry' clock clock' timeout deadline made
    have asks : Step registry clock s (.request timeout) _ [] := .request made
    -- The new call is the only one that waits, and nobody holds the lock.
    refine ⟨_, play?_cons_iff.mpr ⟨_, [], _, asks, play?_cons_iff.mpr ⟨_, _, [], .acquire
      (c := { timeout := timeout.getD s.defaultTimeout, token := { deadline } }) ?_ free ?_ rfl, rfl, rfl⟩,
      rfl⟩, rfl, ?_⟩
    · simp [call?]
    · simp [empty]
    · simp [call?, setCall, Call.begun]

end Controller

end FrameHost.Shutdown
