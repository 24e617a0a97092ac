import FrameHost.Proofs.Shutdown.Order
import FrameHost.Proofs.Shutdown.Timing

/-! The timetable of the sequences of a controller.

The lock is free only when nobody waits for it, so a sequence starts as soon as it may. The deadline of
the sequence under way bounds the time until it ends, and those of the ones before it have bounded the
time until it could start. -/

set_option autoImplicit false

namespace FrameHost.Shutdown.Controller
variable {registry : Registry} {clock : Clock} {s s' start : Controller} {e : Event}
  {happenings : List Happening} {past : List Moment} {now : Nat}

/-! The order in which the lock is granted, and when. -/

theorem Timed.admitted {defaultTimeout : Duration} (timed : Timed { defaultTimeout } past s now) :
    ∃ n, s.Admitted n := timed.run.1.admitted timed.kept

theorem Timed.at_le (timed : Timed start past s now) {time : Nat} {h : Happening}
    (found : At past time h) : time ≤ now := by
  obtain ⟨m, inPast, rfl, -⟩ := found
  exact timed.run.2 m inPast

theorem Run.released (run : Run start past s) (unused : start.calls = []) {k : Nat} {c : Call}
    {report : Report} (found : s.call? k = some c) (ended : c.phase = .ended report) :
    ∃ time, At past time (.released k) := by
  obtain ⟨m, finalizer, finished⟩ := (run.passed unused k c found).of_late (by rw [ended]; rfl)
  have member : .released k ∈ course past k := by
    rw [finished.course, ended]
    refine List.mem_cons_of_mem _ (List.mem_append_right _ ?_)
    exact List.mem_map.mpr ⟨.release, by simp [Phase.closed], rfl⟩
  obtain ⟨m, inPast, happened⟩ := List.mem_flatMap.mp (List.mem_filter.mp member).1
  exact ⟨m.clock.now, m, inPast, rfl, happened⟩

/-- If the lock is free and a call waits for it, the sequence of that call starts now. -/
def Ready (past : List Moment) (s : Controller) (now : Nat) : Prop :=
  s.holder = none → ∀ k, s.waiting.head? = some k → Starts past k now

theorem Ready.same {more : List Moment} (ready : Ready past s now) (holder : s'.holder = s.holder)
    (waiting : s'.waiting = s.waiting) : Ready (past ++ more) s' now := by
  intro free k first
  exact (ready (holder ▸ free) k (waiting ▸ first)).append

theorem Timed.ready_request {defaultTimeout : Duration} {timeout : Option Duration} {deadline : Nat}
    (timed : Timed { defaultTimeout } past s clock.now)
    (made : clock.deadline? (timeout.getD s.defaultTimeout) = some deadline)
    (ready : Ready past s clock.now) :
    Ready (past ++ [⟨registry, clock, s, .request timeout, []⟩])
      { s with
        calls := s.calls ++ [{ timeout := timeout.getD s.defaultTimeout, token := { deadline } }]
        waiting := s.waiting ++ [s.calls.length] } clock.now := by
  intro free k first
  obtain ⟨n, admitted⟩ := timed.admitted
  cases empty : s.waiting with
  | cons j rest =>
    refine (ready free k ?_).append
    simpa [empty] using first
  | nil =>
    -- The new call is the first in the queue, so all calls before it have ended.
    have last : s.calls.length = k := by simpa [empty] using first
    subst last
    have asked : (requests (past ++ [⟨registry, clock, s, .request timeout, []⟩]))[s.calls.length]? =
        some ⟨clock.now, timeout.getD s.defaultTimeout⟩ := by
      have same := congrArg List.length (timed.run.1.requested rfl)
      simp only [List.length_map] at same
      simp [same, requests, Moment.request?, made]
    cases before : s.calls.length with
    | zero =>
      rw [before] at asked
      exact .first asked
    | succ j =>
      rw [before] at asked
      have bound : j < s.calls.length := by omega
      have found : s.call? j = some s.calls[j] := List.getElem?_eq_getElem bound
      have through : j < n := by
        have none := congrArg List.length (admitted.waiting.symm.trans empty)
        simp only [List.length_range', List.length_nil] at none
        omega
      obtain ⟨report, ended⟩ := admitted.ended j _ found through (fun holds => by cases holds.symm.trans free)
      obtain ⟨time, released⟩ := timed.run.1.released rfl found ended
      have latest : Nat.max clock.now time = clock.now := Nat.max_eq_left (timed.at_le released)
      exact latest ▸ Starts.next asked released.append

theorem Timed.ready_release {defaultTimeout : Duration} {k : Nat} {c : Call}
    (timed : Timed { defaultTimeout } past s clock.now) (found : s.call? k = some c)
    (closing : c.phase = .closing .release) :
    Ready (past ++ [⟨registry, clock, s, .close k, [.released k]⟩]) (s.closeStep k c .release).1
      clock.now := by
  intro _ j first
  obtain ⟨n, admitted⟩ := timed.admitted
  have holds := admitted.holds found (by rw [closing]; rfl)
  have last := admitted.holder k holds
  obtain ⟨same, bound⟩ := admitted.next first
  have next : j = k + 1 := same.trans last.symm
  subst next
  have waiting : s.call? (k + 1) = some s.calls[k + 1] := List.getElem?_eq_getElem (same ▸ bound)
  obtain ⟨r, asked, -⟩ := timed.run.1.request_of_call rfl waiting
  obtain ⟨m, inPast, made⟩ := mem_requests (List.mem_of_getElem? asked)
  have early : r.time ≤ clock.now := made ▸ timed.run.2 m inPast
  have latest : Nat.max r.time clock.now = clock.now := Nat.max_eq_right early
  have released : At (past ++ [⟨registry, clock, s, .close k, [.released k]⟩]) clock.now
      (.released k) := ⟨_, List.mem_append_right _ (List.mem_singleton.mpr rfl), rfl, by simp⟩
  exact latest ▸ Starts.next (getElem?_requests_append asked) released

theorem Timed.ready {defaultTimeout : Duration} (timed : Timed { defaultTimeout } past s now) :
    Ready past s now := by
  induction timed with
  | start => exact fun _ k first => nomatch first
  | @step past s s' registry clock e happenings timed grown kept stepped ih =>
    cases Step.of_step stepped with
    | request made => exact timed.ready_request made ih
    | overflow late => exact ih.same rfl rfl
    | acquire found free first queued => exact fun free => nomatch free
    | work found work => exact ih.same rfl rfl
    | setFinalizer => exact ih.same rfl rfl
    | withdraw => exact (kept _ rfl).elim
    | leave => exact (kept _ rfl).elim
    | @close k c next found closing =>
      cases next with
      | release => exact timed.ready_release found closing
      | _ => exact ih.same rfl rfl
  | pass timed passed waits ih =>
    intro free k first
    obtain ⟨n, admitted⟩ := timed.admitted
    obtain ⟨rfl, bound⟩ := admitted.next first
    have found := List.getElem?_eq_getElem bound
    have queued := admitted.queued k _ found (Nat.le_refl _)
    exact (waits.not_step rfl (.acquire found free first queued)).elim

/-! How long a sequence may take. -/

theorem Timed.bound {defaultTimeout : Duration} (timed : Timed { defaultTimeout } past s now) :
    ∀ k c, s.call? k = some c → (∀ report, c.phase ≠ .ended report) →
      ∃ j r, j ≤ k ∧ (requests past)[j]? = some r ∧ now ≤ r.deadline := by
  induction timed with
  | start => exact fun k c found => nomatch found
  | @step past s s' registry clock e happenings timed grown kept stepped ih =>
    intro k c found unended
    have keep (j : Nat) (before : Call) (was : s.call? j = some before)
        (still : ∀ report, before.phase ≠ .ended report) :
        ∃ i r, i ≤ j ∧ (requests (past ++ [⟨registry, clock, s, e, happenings⟩]))[i]? = some r ∧
          clock.now ≤ r.deadline := by
      obtain ⟨i, r, le, asked, early⟩ := ih j before was still
      exact ⟨i, r, le, getElem?_requests_append asked, early⟩
    rcases (Step.of_step stepped).call_cases found with ⟨same, -, -⟩ |
        ⟨timeout, deadline, -, -, made, rfl, rfl⟩ | ⟨before, same, work⟩
    · exact keep k c same unended
    · -- The deadline of a new call is its own bound.
      obtain ⟨r, asked, -, same⟩ :=
        (timed.step grown kept stepped).run.1.request_of_call rfl found
      have fixed := ((Clock.deadline?_eq_some_iff _ _ _).mp made).2
      refine ⟨_, r, Nat.le_refl _, asked, ?_⟩
      simp only [fixed] at same
      omega
    · exact keep k before same fun report ended => unended report (work.ended ended)
  | @pass past s registry clock now later timed passed waits ih =>
    intro k c found unended
    obtain ⟨n, admitted⟩ := timed.admitted
    rcases admitted.front found unended with ⟨d, -, free, first, other, queued⟩ |
        ⟨j, d, le, other, inside⟩
    · exact (waits.not_step rfl (.acquire other free first queued)).elim
    · obtain ⟨r, asked, -, same⟩ := timed.run.1.request_of_call rfl other
      exact ⟨j, r, le, asked, same ▸ waits.le_deadline other inside⟩

/-! What a step with a given happening says of the controller before it. -/

theorem Step.of_began (step : Step registry clock s e s' happenings) {k frames : Nat}
    {timeout : Duration} (happened : .began k frames timeout ∈ happenings) :
    s.holder = none ∧ s.waiting.head? = some k := by
  cases step with
  | acquire found free first =>
    cases List.mem_singleton.mp happened
    exact ⟨free, first⟩
  | work found work =>
    have rank := (work.rank _ happened).1
    simp [Happening.rank] at rank
  | @close j c next => cases next <;> cases List.mem_singleton.mp happened
  | overflow => cases List.mem_singleton.mp happened
  | leave => cases List.mem_singleton.mp happened
  | _ => cases happened

theorem Step.of_stop (step : Step registry clock s e s' happenings) {h : Happening} {k i : Nat}
    (happened : h ∈ happenings) (stop : h.stop? = some (k, i)) :
    ∃ c stop next, s.call? k = some c ∧ c.stops[i]? = some stop ∧
      stop.Move registry k i c.token.deadline e next h := by
  have rank := rank_of_stop? stop
  have concerned := call?_of_stop? stop
  cases step with
  | work found work =>
    cases work with
    | stop here move =>
      cases List.mem_singleton.mp happened
      cases move.stop?.symm.trans stop
      exact ⟨_, _, _, found, here, move⟩
    | finalize =>
      rw [stop?_of_mem_called _ _ happened] at stop
      cases stop
    | skip =>
      rw [stop?_of_mem_failures happened] at stop
      cases stop
    | endFinalizer =>
      cases List.mem_singleton.mp happened
      cases stop
  | @close j c next =>
    cases List.mem_singleton.mp happened
    simp at stop
  | overflow =>
    cases List.mem_singleton.mp happened
    cases stop
  | acquire =>
    cases List.mem_singleton.mp happened
    cases stop
  | leave =>
    cases List.mem_singleton.mp happened
    cases stop
  | _ => cases happened

theorem Step.of_released (step : Step registry clock s e s' happenings) (kept : ∀ k, e ≠ .abandon k)
    {k : Nat} (happened : .released k ∈ happenings) :
    ∃ c, s.call? k = some c ∧ c.phase = .closing .release := by
  cases step with
  | @close j c next found closing =>
    have same := List.mem_singleton.mp happened
    cases next <;> cases same
    exact ⟨c, found, closing⟩
  | work found work =>
    have rank := (work.rank _ happened).2
    simp [Happening.rank, Closing.rank] at rank
  | leave => exact (kept _ rfl).elim
  | overflow => cases List.mem_singleton.mp happened
  | acquire => cases List.mem_singleton.mp happened
  | _ => cases happened

theorem Step.of_passBarrier {k : Nat} (step : Step registry clock s (.passBarrier k) s' happenings) :
    ∃ c, s.call? k = some c ∧ c.phase = .stopping ∧ c.stops.all Stop.ended = true := by
  cases step with
  | work found work =>
    cases work with
    | stop here move => cases move
    | finalize stopping ended => exact ⟨_, found, stopping, ended⟩
    | skip stopping ended => exact ⟨_, found, stopping, ended⟩

/-- The timetable of the calls of a controller up to a time. -/
structure Timetable (past : List Moment) (now : Nat) : Prop where
  /-- Calls are numbered as they are made. -/
  asked : (requests past).Pairwise fun r later => r.time ≤ later.time
  /-- Their sequences follow one another in that order. -/
  order : (trace past).Pairwise Precedes
  /-- The deadline is that of the call, whenever its sequence has its turn. -/
  deadline : ∀ h ∈ trace past, ∀ k d, h.call? = some k → h.deadline? = some d →
    ∃ r, (requests past)[k]? = some r ∧ d = r.deadline
  start : ∀ time k frames timeout, At past time (.began k frames timeout) → Starts past k time
  /-- All frames are told to stop at the start, and the barrier is passed when the last has stopped. -/
  stops : ∀ time k i deadline, At past time (.invoked k i deadline) → Begins past k time
  barrier : ∀ m ∈ past, ∀ k, m.event = .passBarrier k → Stopped past k m.clock.now ∧
    ∀ time h i, At past time h → h.stopped? = some (k, i) → time ≤ m.clock.now
  /-- A sequence ends with its finalizer, or with its barrier if it has none. -/
  finish : ∀ time k, At past time (.released k) → Finishes past k time
  /-- It ends by the latest of its own deadline and those of the calls before it. -/
  bound : ∀ time k, At past time (.released k) →
    ∃ j r, j ≤ k ∧ (requests past)[j]? = some r ∧ time ≤ r.deadline
  /-- Once all these are over it has ended. -/
  ends : ∀ k, k < (requests past).length →
    (∀ j r, j ≤ k → (requests past)[j]? = some r → r.deadline < now) → ∃ time, At past time (.released k)

theorem Run.tells (run : Run start past s) (unused : start.calls = []) :
    ∀ h ∈ trace past, ∀ k d, h.call? = some k → h.deadline? = some d →
      ∃ r, (requests past)[k]? = some r ∧ d = r.deadline := by
  induction run with
  | start => exact fun h member => nomatch member
  | @step past s s' registry clock e happenings run later stepped ih =>
    intro h member k d concerned told
    rcases List.mem_append.mp (trace_concat past _ ▸ member) with before | now
    · obtain ⟨r, asked, same⟩ := ih h before k d concerned told
      exact ⟨r, getElem?_requests_append asked, same⟩
    · rcases (Step.of_step stepped).calls_cases with ⟨-, -, quiet⟩ | ⟨_, _, -, rfl, -⟩ |
          ⟨j, c, c', found, work, -⟩
      · simp [quiet h now] at concerned
      · cases now
      · cases (work.call? h now).symm.trans concerned
        obtain ⟨r, asked, -, same⟩ := run.request_of_call unused found
        exact ⟨r, getElem?_requests_append asked, (work.tells h now d told).trans same⟩

theorem Timed.sorted (timed : Timed start past s now) :
    (requests past).Pairwise fun r later => r.time ≤ later.time := by
  induction timed with
  | start => exact List.Pairwise.nil
  | @step past s s' registry clock e happenings timed grown kept stepped ih =>
    rw [requests_append]
    refine List.pairwise_append.mpr ⟨ih, ?_, fun r before later last => ?_⟩
    · cases made : Moment.request? ⟨registry, clock, s, e, happenings⟩ <;> simp [requests, made]
    · obtain ⟨m, inPast, early⟩ := mem_requests before
      obtain ⟨m', single, now⟩ := mem_requests last
      cases List.mem_singleton.mp single
      rw [← early, ← now]
      exact timed.run.2 m inPast
  | pass timed passed waits ih => exact ih

theorem Timed.stopped_before {defaultTimeout : Duration} (timed : Timed { defaultTimeout } past s now)
    {m : Moment} (member : m ∈ past) {k i time : Nat} (passed : m.event = .passBarrier k)
    {h : Happening} (found : At past time h) (stopped : h.stopped? = some (k, i)) :
    time ≤ m.clock.now := by
  obtain ⟨m', inPast, rfl, happened⟩ := found
  obtain ⟨before, after, rfl⟩ := List.append_of_mem member
  rcases List.mem_append.mp inPast with earlier | rest
  · exact (timed.before rfl).1.run.2 m' earlier
  · rcases List.mem_cons.mp rest with rfl | later
    · exact Nat.le_refl _
    · obtain ⟨first, last, rfl⟩ := List.append_of_mem later
      have split : before ++ m :: (first ++ m' :: last) = (before ++ m :: first) ++ m' :: last := by
        simp
      obtain ⟨timed', s', step⟩ := timed.before split
      obtain ⟨c, stop, next, found, here, move⟩ := step.of_stop happened (stop?_of_stopped? stopped)
      have passed' := timed'.run.1.passed rfl k c found
      obtain ⟨n, admitted⟩ := timed'.admitted
      -- A stop is open only before the barrier, but this one was passed at m.
      rcases passed'.pending here move.pending.1 with phase | phase
      · have none := (passed'.of_stopping phase).2.1
        have some : m ∈ occurrences (before ++ m :: first) (.passBarrier k) := by
          simp [occurrences, passed]
        rw [none] at some
        cases some
      · exact (admitted.unabandoned found phase).elim

theorem Timed.timetable {defaultTimeout : Duration} (timed : Timed { defaultTimeout } past s now) :
    Timetable past now where
  asked := timed.sorted
  order := (timed.run.1.ranked timed.kept).sorted
  deadline := timed.run.1.tells rfl
  -- Each rule about a moment holds by what was on time in the run before that moment.
  start := by
    rintro time k frames timeout ⟨m, member, rfl, happened⟩
    obtain ⟨before, after, rfl⟩ := List.append_of_mem member
    obtain ⟨timed', s', step⟩ := timed.before rfl
    obtain ⟨free, first⟩ := step.of_began happened
    exact (timed'.ready free k first).append
  stops := by
    rintro time k i deadline ⟨m, member, rfl, happened⟩
    obtain ⟨before, after, rfl⟩ := List.append_of_mem member
    obtain ⟨timed', s', step⟩ := timed.before rfl
    obtain ⟨c, stop, next, found, here, move⟩ := step.of_stop happened rfl
    generalize m.event = e at move
    cases move
    exact ((timed'.onTime rfl k c found).spawned (List.mem_of_getElem? here)).append
  barrier := by
    intro m member k passed
    refine ⟨?_, fun time h i found stopped => timed.stopped_before member passed found stopped⟩
    obtain ⟨before, after, rfl⟩ := List.append_of_mem member
    obtain ⟨timed', s', step⟩ := timed.before rfl
    rw [passed] at step
    obtain ⟨c, found, stopping, ended⟩ := step.of_passBarrier
    exact ((timed'.onTime rfl k c found).stopped stopping ended).append
  finish := by
    rintro time k ⟨m, member, rfl, happened⟩
    have kept := timed.kept m member
    obtain ⟨before, after, rfl⟩ := List.append_of_mem member
    obtain ⟨timed', s', step⟩ := timed.before rfl
    obtain ⟨c, found, closing⟩ := step.of_released kept happened
    exact ((timed'.onTime rfl k c found).closing _ closing).append
  bound := by
    rintro time k ⟨m, member, rfl, happened⟩
    have kept := timed.kept m member
    obtain ⟨before, after, rfl⟩ := List.append_of_mem member
    obtain ⟨timed', s', step⟩ := timed.before rfl
    obtain ⟨c, found, closing⟩ := step.of_released kept happened
    obtain ⟨j, r, le, asked, early⟩ := timed'.bound k c found (by simp [closing])
    exact ⟨j, r, le, getElem?_requests_append asked, early⟩
  ends := by
    intro k made late
    obtain ⟨c, found, -⟩ := timed.run.1.call_of_request rfl (List.getElem?_eq_getElem made)
    by_cases ended : ∃ report, c.phase = .ended report
    · obtain ⟨report, ended⟩ := ended
      exact timed.run.1.released rfl found ended
    · obtain ⟨j, r, le, asked, early⟩ := timed.bound k c found fun report same => ended ⟨report, same⟩
      have := late j r le asked
      omega

end FrameHost.Shutdown.Controller
