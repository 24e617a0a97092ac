import FrameHost.Proofs.Shutdown.Rank
import FrameHost.Proofs.Shutdown.Verdict
import FrameHost.Proofs.Past

/-! The times of the sequences of a controller.

Time passes for a controller only while it waits, that is while it has nothing left to do by itself.
What is due is then never put off, so each part of a sequence takes place at the time of what it
waited for: the start at that of the call or of the end before it, the barrier at that of the last stop. -/

set_option autoImplicit false

namespace FrameHost.Shutdown

structure Request where
  time : Nat
  timeout : Duration

def Request.deadline (r : Request) : Nat := r.time + r.timeout.millis

def Moment.request? (m : Moment) : Option Request :=
  match m.event with
  | .request timeout =>
    let timeout := timeout.getD m.before.defaultTimeout
    (m.clock.deadline? timeout).map fun _ => { time := m.clock.now, timeout }
  | _ => none

def requests (past : List Moment) : List Request := past.filterMap Moment.request?

def At (past : List Moment) (time : Nat) (h : Happening) : Prop :=
  ∃ m ∈ past, m.clock.now = time ∧ h ∈ m.happenings

def Happening.deadline? : Happening → Option Nat
  | .invoked _ _ deadline | .finalizerCalled _ _ deadline => some deadline
  | .published _ report => some report.deadline
  | _ => none

def Happening.stopped? : Happening → Option (Nat × Nat)
  | .returned k i _ _ | .panicked k i => some (k, i)
  | _ => none

/-- Whether a controller carries out an event by itself, without callers, frames and finalizers. -/
def Event.own : Event → Bool
  | .acquire _ | .invoke _ _ | .passBarrier _ | .close _ => true
  | _ => false

/-- A controller may wait until a time: there is nothing left that it could do by itself, and the
deadline of whoever is at work does not come before that time. -/
structure Controller.Waits (registry : Registry) (clock : Clock) (s : Controller) (later : Nat) :
    Prop where
  idle : ∀ e, e.own = true → s.step registry clock e = none
  stops : ∀ k c, s.call? k = some c → .invoked ∈ c.stops → later ≤ c.token.deadline
  finalizer : ∀ k c, s.call? k = some c → c.phase = .finalizing → later ≤ c.token.deadline

/-- The runs of a controller against a clock, in which nobody gives up a call. -/
inductive Controller.Timed (start : Controller) : List Moment → Controller → Nat → Prop
  | start {now : Nat} : Timed start [] start now
  | step {past : List Moment} {s s' : Controller} {registry : Registry} {clock : Clock} {e : Event}
      {happenings : List Happening} (run : Timed start past s clock.now)
      (grown : ∀ m ∈ past, m.registry.frames <+: registry.frames) (kept : ∀ k, e ≠ .abandon k)
      (stepped : s.step registry clock e = some (s', happenings)) :
      Timed start (past ++ [⟨registry, clock, s, e, happenings⟩]) s' clock.now
  | pass {past : List Moment} {s : Controller} {registry : Registry} {clock : Clock} {now later : Nat}
      (run : Timed start past s now) (passed : now < later) (waits : s.Waits registry clock later) :
      Timed start past s later

/-- A sequence starts when it is asked for, or when the one before it has ended, if that is later. -/
inductive Starts (past : List Moment) : Nat → Nat → Prop
  | first {r : Request} (asked : (requests past)[0]? = some r) : Starts past 0 r.time
  | next {k ended : Nat} {r : Request} (asked : (requests past)[k + 1]? = some r)
      (before : At past ended (.released k)) : Starts past (k + 1) (Nat.max r.time ended)

def Begins (past : List Moment) (k time : Nat) : Prop :=
  ∃ frames timeout, At past time (.began k frames timeout)

/-- The last frame of a sequence stops at a time, or the sequence begins then and has no frames. -/
def Stopped (past : List Moment) (k time : Nat) : Prop :=
  (∃ timeout, At past time (.began k 0 timeout)) ∨
    ∃ h i, At past time h ∧ h.stopped? = some (k, i)

/-- The finalizer of a sequence ends at a time, or the barrier is passed then and no finalizer is set. -/
def Finishes (past : List Moment) (k time : Nat) : Prop :=
  (∃ outcome, At past time (.finalizerEnded k outcome)) ∨
    ∃ m ∈ past, m.event = .passBarrier k ∧ m.before.finalizer = none ∧ m.clock.now = time

section
variable {past more : List Moment} {m : Moment} {k time : Nat} {h : Happening}

theorem At.append (found : At past time h) : At (past ++ more) time h := by
  obtain ⟨m, member, same, happened⟩ := found
  exact ⟨m, List.mem_append_left _ member, same, happened⟩

theorem At.last (happened : h ∈ m.happenings) : At (past ++ [m]) m.clock.now h :=
  ⟨m, by simp, rfl, happened⟩

theorem requests_append : requests (past ++ more) = requests past ++ requests more := by
  simp [requests]

theorem getElem?_requests_append {r : Request} (found : (requests past)[k]? = some r) :
    (requests (past ++ more))[k]? = some r := by
  rw [requests_append, List.getElem?_append_left (List.getElem?_eq_some_iff.mp found).1, found]

theorem mem_requests {r : Request} (member : r ∈ requests past) : ∃ m ∈ past, m.clock.now = r.time := by
  obtain ⟨m, inPast, made⟩ := List.mem_filterMap.mp member
  refine ⟨m, inPast, ?_⟩
  unfold Moment.request? at made
  split at made
  · obtain ⟨deadline, -, same⟩ := Option.map_eq_some_iff.mp made
    rw [← same]
  · cases made

theorem stop?_of_stopped? {h : Happening} {place : Nat × Nat} (stopped : h.stopped? = some place) :
    h.stop? = some place := by
  cases h with
  | returned => exact stopped
  | panicked => exact stopped
  | _ => cases stopped

theorem Starts.append (starts : Starts past k time) : Starts (past ++ more) k time := by
  cases starts with
  | first asked => exact .first (getElem?_requests_append asked)
  | next asked before => exact .next (getElem?_requests_append asked) before.append

theorem Begins.append (begins : Begins past k time) : Begins (past ++ more) k time := by
  obtain ⟨frames, timeout, found⟩ := begins
  exact ⟨frames, timeout, found.append⟩

theorem Stopped.append (stopped : Stopped past k time) : Stopped (past ++ more) k time := by
  rcases stopped with ⟨timeout, found⟩ | ⟨h, i, found, ends⟩
  · exact .inl ⟨timeout, found.append⟩
  · exact .inr ⟨h, i, found.append, ends⟩

theorem Finishes.append (finishes : Finishes past k time) : Finishes (past ++ more) k time := by
  rcases finishes with ⟨outcome, found⟩ | ⟨m, member, passed⟩
  · exact .inl ⟨outcome, found.append⟩
  · exact .inr ⟨m, List.mem_append_left _ member, passed⟩

end

section
variable {registry : Registry} {finalizer : Option Nat} {k : Nat} {c c' : Call} {e : Event}
  {happenings : List Happening}

theorem Call.Step.timeout (step : c.Step registry finalizer k e c' happenings) :
    c'.timeout = c.timeout := by
  cases step with
  | work work => cases work <;> rfl
  | close => exact Call.timeout_close _
  | _ => rfl

theorem Call.Step.ended (step : c.Step registry finalizer k e c' happenings) {report : Report}
    (ended : c.phase = .ended report) : c'.phase = .ended report := by
  cases step with
  | acquire queued => simp [ended] at queued
  | work work =>
    cases work with
    | stop => exact ended
    | finalize stopping => simp [ended] at stopping
    | skip stopping => simp [ended] at stopping
    | endFinalizer finalizing => simp [ended] at finalizing
  | close closing => simp [ended] at closing
  | withdraw queued => simp [ended] at queued
  | leave inside => simp [ended] at inside

theorem Call.Work.rank (work : c.Work registry finalizer k e c' happenings) :
    ∀ h ∈ happenings, 1 < h.rank ∧ h.rank < 6 := by
  intro h member
  cases work with
  | stop found move =>
    rw [List.mem_singleton.mp member, move.rank]
    omega
  | finalize =>
    rcases List.mem_append.mp member with failed | called
    · rw [rank_of_mem_failures failed]
      omega
    · rw [List.mem_singleton.mp called]
      simp [Happening.rank]
  | skip =>
    rw [rank_of_mem_failures member]
    omega
  | endFinalizer =>
    rw [List.mem_singleton.mp member]
    simp [Happening.rank]

theorem Call.Step.tells (step : c.Step registry finalizer k e c' happenings) :
    ∀ h ∈ happenings, ∀ d, h.deadline? = some d → d = c.token.deadline := by
  intro h member d told
  cases step with
  | work work =>
    cases work with
    | stop found move =>
      cases List.mem_singleton.mp member
      cases move <;> cases told
      rfl
    | finalize =>
      rcases List.mem_append.mp member with failed | called
      · obtain ⟨i, message, -, rfl⟩ := mem_failures.mp failed
        cases told
      · cases List.mem_singleton.mp called
        cases told
        rfl
    | skip =>
      obtain ⟨i, message, -, rfl⟩ := mem_failures.mp member
      cases told
    | endFinalizer =>
      cases List.mem_singleton.mp member
      cases told
  | @close next closing =>
    cases List.mem_singleton.mp member
    cases next <;> cases told
    rfl
  | withdraw => cases member
  | _ =>
    cases List.mem_singleton.mp member
    cases told

end

namespace Controller
variable {registry : Registry} {clock : Clock} {s s' start : Controller} {e : Event}
  {happenings : List Happening} {past : List Moment} {now : Nat}

theorem Step.request?_eq_none (step : Step registry clock s e s' happenings) (same : s'.calls = s.calls) :
    Moment.request? ⟨registry, clock, s, e, happenings⟩ = none := by
  cases step with
  | request made => simp at same
  | overflow late => simp [Moment.request?, late]
  | work found work =>
    have concerned := work.event_call?
    cases e with
    | request => cases concerned
    | _ => rfl
  | _ => rfl

theorem Run.requested (run : Run start past s) (unused : start.calls = []) :
    s.calls.map (fun c => (c.timeout, c.token.deadline)) =
      (requests past).map fun r => (r.timeout, r.deadline) := by
  induction run with
  | start => simp [unused, requests]
  | @step past s s' registry clock e happenings run later stepped ih =>
    have step := Step.of_step stepped
    rw [requests_append, List.map_append, ← ih]
    rcases step.calls_cases with ⟨same, -, -⟩ | ⟨timeout, deadline, rfl, -, made, added⟩ |
        ⟨k, c, c', found, work, changed⟩
    · simp [requests, step.request?_eq_none same, same]
    · have fixed := (Clock.deadline?_eq_some_iff _ _ _).mp made
      simp [requests, Moment.request?, made, added, Request.deadline, fixed.2]
    · have none : Moment.request? ⟨registry, clock, s, e, happenings⟩ = none := by
        have concerned := work.event_call?
        cases e with
        | request => cases concerned
        | _ => rfl
      simp only [requests, List.filterMap_cons_none none, List.filterMap_nil, List.map_nil,
        List.append_nil, changed, List.map_set]
      -- A call keeps its timeout and its deadline, so nothing changes here.
      rw [work.timeout, work.deadline]
      refine List.ext_getElem? fun j => ?_
      rw [List.getElem?_set]
      split
      · rename_i same
        subst same
        obtain ⟨bound, same⟩ := List.getElem?_eq_some_iff.mp found
        simp [bound, same]
      · rfl

theorem Run.request_of_call (run : Run start past s) (unused : start.calls = []) {k : Nat} {c : Call}
    (found : s.call? k = some c) :
    ∃ r, (requests past)[k]? = some r ∧ c.timeout = r.timeout ∧ c.token.deadline = r.deadline := by
  have same := congrArg (fun l => l[k]?) (run.requested unused)
  have present : s.calls[k]? = some c := found
  simp only [List.getElem?_map, present, Option.map_some] at same
  obtain ⟨r, asked, equal⟩ := Option.map_eq_some_iff.mp same.symm
  simp only [Prod.mk.injEq] at equal
  exact ⟨r, asked, equal.1.symm, equal.2.symm⟩

theorem Run.report_deadline (run : Run start past s) (unused : start.calls = []) {k : Nat} {c : Call}
    {report : Report} (found : s.call? k = some c) (ended : c.phase = .ended report) {r : Request}
    (asked : (requests past)[k]? = some r) : report.deadline = r.deadline := by
  obtain ⟨r', asked', -, fixed⟩ := run.request_of_call unused found
  obtain ⟨m, finalizer, finished⟩ := (run.passed unused k c found).of_late (by rw [ended]; rfl)
  cases asked.symm.trans asked'
  rw [finished.report report ended]
  exact fixed

theorem Run.call_of_request (run : Run start past s) (unused : start.calls = []) {k : Nat} {r : Request}
    (asked : (requests past)[k]? = some r) : ∃ c, s.call? k = some c ∧ c.token.deadline = r.deadline := by
  have same := congrArg (fun l => l[k]?) (run.requested unused)
  simp only [List.getElem?_map, asked, Option.map_some] at same
  obtain ⟨c, found, equal⟩ := Option.map_eq_some_iff.mp same
  simp only [Prod.mk.injEq] at equal
  exact ⟨c, found, equal.2⟩

/-! Runs against a clock. -/

theorem Timed.run (timed : Timed start past s now) : Run start past s ∧ ∀ m ∈ past, m.clock.now ≤ now := by
  induction timed with
  | start => exact ⟨.start, fun m member => (List.not_mem_nil member).elim⟩
  | step timed grown kept stepped ih =>
    refine ⟨ih.1.step (fun m member => ⟨grown m member, ih.2 m member⟩) stepped, fun m member => ?_⟩
    rcases List.mem_append.mp member with before | last
    · exact ih.2 m before
    · cases List.mem_singleton.mp last
      exact Nat.le_refl _
  | pass timed passed waits ih =>
    exact ⟨ih.1, fun m member => Nat.le_trans (ih.2 m member) (Nat.le_of_lt passed)⟩

theorem Timed.kept (timed : Timed start past s now) : ∀ m ∈ past, ∀ k, m.event ≠ .abandon k := by
  induction timed with
  | start => exact fun m member => (List.not_mem_nil member).elim
  | step timed grown kept stepped ih =>
    intro m member
    rcases List.mem_append.mp member with before | last
    · exact ih m before
    · rw [List.mem_singleton.mp last]
      exact kept
  | pass timed passed waits ih => exact ih

theorem Timed.before (timed : Timed start past s now) {before after : List Moment} {m : Moment}
    (split : past = before ++ m :: after) :
    Timed start before m.before m.clock.now ∧
      ∃ s', Step m.registry m.clock m.before m.event s' m.happenings := by
  induction timed generalizing after with
  | start => simp at split
  | step timed grown kept stepped ih =>
    rcases split_concat split with ⟨rfl, rfl, rfl⟩ | ⟨rest, -, same⟩
    · exact ⟨timed, _, Step.of_step stepped⟩
    · exact ih same
  | pass timed passed waits ih => exact ih split

/-! What is due is not put off. -/

/-- Nothing is overdue in a call: what it can do by itself now it could not have done earlier. -/
structure OnTime (past : List Moment) (k : Nat) (c : Call) (now : Nat) : Prop where
  spawned : .spawned ∈ c.stops → Begins past k now
  stopped : c.phase = .stopping → c.stops.all Stop.ended = true → Stopped past k now
  closing : ∀ next, c.phase = .closing next → Finishes past k now

theorem OnTime.append {k : Nat} {c : Call} (onTime : OnTime past k c now) {more : List Moment} :
    OnTime (past ++ more) k c now where
  spawned waiting := (onTime.spawned waiting).append
  stopped stopping ended := (onTime.stopped stopping ended).append
  closing next closing := (onTime.closing next closing).append

theorem OnTime.made {k : Nat} {c : Call} (stops : c.stops = []) (queued : c.phase = .queued) :
    OnTime past k c now where
  spawned waiting := by simp [stops] at waiting
  stopped stopping := by simp [queued] at stopping
  closing next closing := by simp [queued] at closing

theorem OnTime.begun {k frames : Nat} {c : Call}
    (began : At past now (.began k frames c.timeout)) : OnTime past k (c.begun frames) now where
  spawned _ := ⟨frames, c.timeout, began⟩
  stopped _ ended := by
    cases frames with
    | zero => exact .inl ⟨c.timeout, began⟩
    | succ n => simp [Call.begun, List.replicate_succ, Stop.ended] at ended
  closing _ closing := nomatch closing

theorem OnTime.work {k : Nat} {c c' : Call} (onTime : OnTime past k c clock.now)
    (work : c.Work registry s.finalizer k e c' happenings) :
    OnTime (past ++ [⟨registry, clock, s, e, happenings⟩]) k c' clock.now := by
  have kept : OnTime (past ++ [⟨registry, clock, s, e, happenings⟩]) k c clock.now := onTime.append
  cases work with
  | @stop i stop next e h found move =>
    refine ⟨fun waiting => ?_, fun _ ended => ?_, fun step closing => kept.closing step closing⟩
    · rcases List.mem_or_eq_of_mem_set waiting with before | same
      · exact kept.spawned before
      · cases move <;> cases same
    · -- All have ended after the move, so it was one that ends a stop.
      have moved : next.ended = true := by
        refine List.all_eq_true.mp ended next (List.mem_of_getElem? (i := i) ?_)
        simp [(List.getElem?_eq_some_iff.mp found).1]
      have happened : At (past ++ [⟨registry, clock, s, e, [h]⟩]) clock.now h :=
        At.last (m := ⟨registry, clock, s, e, [h]⟩) (List.mem_singleton.mpr rfl)
      cases move with
      | invoke => cases moved
      | finish => exact .inr ⟨_, i, happened, rfl⟩
      | panic => exact .inr ⟨_, i, happened, rfl⟩
  | finalize => exact ⟨kept.spawned, nofun, nofun⟩
  | skip stopping ended unset =>
    refine ⟨kept.spawned, nofun, fun _ _ => .inr ?_⟩
    exact ⟨_, List.mem_append_right _ (List.mem_singleton.mpr rfl), rfl, unset, rfl⟩
  | @endFinalizer outcome finalizing =>
    refine ⟨kept.spawned, nofun, fun _ _ => .inl ⟨outcome, ?_⟩⟩
    exact At.last (m := ⟨registry, clock, s, _, [.finalizerEnded k outcome]⟩)
      (List.mem_singleton.mpr rfl)

theorem OnTime.worked {k : Nat} {c c' : Call} (onTime : OnTime past k c clock.now)
    (step : c.Step registry s.finalizer k e c' happenings) :
    OnTime (past ++ [⟨registry, clock, s, e, happenings⟩]) k c' clock.now := by
  have kept : OnTime (past ++ [⟨registry, clock, s, e, happenings⟩]) k c clock.now := onTime.append
  cases step with
  | acquire queued =>
    exact .begun (At.last (m := ⟨registry, clock, s, _, [_]⟩) (List.mem_singleton.mpr rfl))
  | work work => exact onTime.work work
  | @close next closing =>
    have finishes := kept.closing next closing
    cases next <;> exact ⟨kept.spawned, nofun, fun _ _ => finishes⟩
  | withdraw => exact ⟨kept.spawned, nofun, nofun⟩
  | leave => exact ⟨kept.spawned, nofun, nofun⟩

/-- Nothing is left to be done for a call by its controller alone, and whoever is at work for the call
has until a time at least. -/
def rests (registry : Registry) (clock : Clock) (s : Controller) (later k : Nat) (c : Call) : Bool :=
  (s.step registry clock (.acquire k)).isNone && !c.stops.contains .spawned &&
    (s.step registry clock (.passBarrier k)).isNone && (s.step registry clock (.close k)).isNone &&
    (decide (later ≤ c.token.deadline) || !c.stops.contains .invoked && c.phase != .finalizing)

theorem rests_iff {later k : Nat} {c : Call} :
    s.rests registry clock later k c = true ↔
      (s.step registry clock (.acquire k) = none ∧ .spawned ∉ c.stops ∧
        s.step registry clock (.passBarrier k) = none ∧ s.step registry clock (.close k) = none) ∧
      (.invoked ∈ c.stops → later ≤ c.token.deadline) ∧
      (c.phase = .finalizing → later ≤ c.token.deadline) := by
  by_cases early : later ≤ c.token.deadline <;> simp [rests, early, and_assoc]

theorem waits_iff {later : Nat} :
    s.Waits registry clock later ↔ ∀ k c, s.call? k = some c → s.rests registry clock later k c = true := by
  constructor
  · intro waits k c found
    have started : .spawned ∉ c.stops := fun member => by
      obtain ⟨i, spawned⟩ := List.mem_iff_getElem?.mp member
      have step : s.step registry clock (.invoke k i) = none := waits.idle _ rfl
      simp [Controller.step, found, spawned] at step
    exact rests_iff.mpr ⟨⟨waits.idle _ rfl, started, waits.idle _ rfl, waits.idle _ rfl⟩,
      waits.stops k c found, waits.finalizer k c found⟩
  · intro rests
    refine ⟨fun e own => ?_, fun k c found => (rests_iff.mp (rests k c found)).2.1,
      fun k c found => (rests_iff.mp (rests k c found)).2.2⟩
    have idle {k : Nat} (concerns : e.call? = some k) (idle : ∀ c, s.call? k = some c →
        s.step registry clock e = none) : s.step registry clock e = none := by
      cases found : s.call? k with
      | some c => exact idle c found
      | none => cases e <;> cases concerns <;> simp [step, found]
    cases e with
    | acquire k => exact idle rfl fun c found => (rests_iff.mp (rests k c found)).1.1
    | invoke k i =>
      refine idle rfl fun c found => ?_
      have started := (rests_iff.mp (rests k c found)).1.2.1
      have other : c.stops[i]? ≠ some .spawned := fun here => started (List.mem_of_getElem? here)
      simp [step, found, other]
    | passBarrier k => exact idle rfl fun c found => (rests_iff.mp (rests k c found)).1.2.2.1
    | close k => exact idle rfl fun c found => (rests_iff.mp (rests k c found)).1.2.2.2
    | _ => cases own

instance {later : Nat} : Decidable (s.Waits registry clock later) :=
  decidable_of_iff (∀ place ∈ s.calls.zipIdx, s.rests registry clock later place.2 place.1 = true) <| by
    rw [waits_iff]
    exact ⟨fun all k c found => all (c, k) (List.mem_zipIdx_iff_getElem?.mpr found),
      fun all place member => all place.2 place.1 (List.mem_zipIdx_iff_getElem?.mp member)⟩

theorem Waits.not_step {later : Nat} (waits : s.Waits registry clock later) (own : e.own = true)
    (possible : Step registry clock s e s' happenings) : False :=
  nomatch (waits.idle e own).symm.trans possible.to_step

theorem Waits.not_barred {later k : Nat} {c : Call} (waits : s.Waits registry clock later)
    (found : s.call? k = some c) (stopping : c.phase = .stopping)
    (ended : c.stops.all Stop.ended = true) : False := by
  cases set : s.finalizer with
  | none => exact waits.not_step rfl (.work found (.skip stopping ended set))
  | some f => exact waits.not_step rfl (.work found (.finalize stopping ended set))

theorem Waits.onTime {later k : Nat} {c : Call} (waits : s.Waits registry clock later)
    (found : s.call? k = some c) : OnTime past k c later := by
  refine ⟨fun waiting => ?_, fun stopping ended => ?_, fun next closing => ?_⟩
  · obtain ⟨i, spawned⟩ := List.mem_iff_getElem?.mp waiting
    exact (waits.not_step rfl (.work found (.stop spawned .invoke))).elim
  · exact (waits.not_barred found stopping ended).elim
  · exact (waits.not_step rfl (.close found closing)).elim

theorem Timed.onTime (timed : Timed start past s now) (unused : start.calls = []) :
    ∀ k c, s.call? k = some c → OnTime past k c now := by
  induction timed with
  | start =>
    intro k c found
    simp [call?, unused] at found
  | step timed grown kept stepped ih =>
    intro k c found
    rcases (Step.of_step stepped).call_cases found with ⟨same, -, -⟩ | ⟨_, _, -, -, -, -, rfl⟩ |
        ⟨before, same, work⟩
    · exact (ih k c same).append
    · exact .made rfl rfl
    · exact (ih k before same).worked work
  | pass timed passed waits ih => exact fun k c found => waits.onTime found

/-- While a controller waits, the deadline of the sequence under way does not pass. -/
theorem Waits.le_deadline {later k : Nat} {c : Call} (waits : s.Waits registry clock later)
    (found : s.call? k = some c) (inside : c.phase.inside = true) : later ≤ c.token.deadline := by
  cases phase : c.phase with
  | stopping =>
    cases ended : c.stops.all Stop.ended with
    | true => exact (waits.not_barred found phase ended).elim
    | false =>
      -- A stop that has not ended has begun, for otherwise it could be begun now.
      obtain ⟨stop, member, unended⟩ := List.all_eq_false.mp ended
      cases stop with
      | spawned =>
        obtain ⟨i, spawned⟩ := List.mem_iff_getElem?.mp member
        exact (waits.not_step rfl (.work found (.stop spawned .invoke))).elim
      | invoked => exact waits.stops k c found member
      | _ => exact (unended rfl).elim
  | finalizing => exact waits.finalizer k c found phase
  | closing next => exact (waits.not_step rfl (.close found phase)).elim
  | _ => simp [phase, Phase.inside] at inside

end Controller

end FrameHost.Shutdown
