import FrameHost.Proofs.Shutdown.Course

/-! What a sequence that has ended has done, and what its report says of it.

A report is settled by three moments: the one that asked for the sequence fixes the deadline, the one
that began it fixes the frames, and the one that passed its barrier fixes the finalizer. -/

set_option autoImplicit false

namespace FrameHost.Shutdown

def Happening.finalizer? : Happening → Option Nat
  | .finalizerCalled k _ _ | .finalizerEnded k _ => some k
  | _ => none

def finalizerTrace (past : List Moment) (k : Nat) : List Happening :=
  (trace past).filter fun h => h.finalizer? = some k

/-- The account of a sequence that has ended. -/
structure Account (past : List Moment) (k : Nat) (report : Report) (timeout : Option Duration)
    (asked begun passed : Moment) : Prop where
  /-- The call was made, and its deadline could be expressed. -/
  request : asked ∈ past ∧ asked.event = .request timeout ∧ asked.happenings = [] ∧
    asked.before.calls.length = k
  deadline : report.deadline = asked.clock.now + (timeout.getD asked.before.defaultTimeout).millis
  /-- The lock was granted once, and the frames are those registered then. -/
  acquired : occurrences past (.acquire k) = [begun]
  frames : report.frames = begun.registry.size
  /-- Each of them was told to stop once, with the deadline, and that came to one end. -/
  stops : ∀ i id, begun.registry.frames[i]? = some id →
    ∃ ending, stopTrace past k i = [.invoked k i report.deadline, ending] ∧
      (ending = .panicked k i ∨ ∃ graceful, ending = .returned k i graceful id)
  others : ∀ i, begun.registry.size ≤ i → stopTrace past k i = []
  /-- The barrier was passed once, and the finalizer set then ran once, with the deadline. -/
  barrier : occurrences past (.passBarrier k) = [passed]
  finalizer : ∃ outcome, finalizerTrace past k =
    finalizerHistory k report.deadline (passed.before.finalizer.map fun f => (f, outcome))
  graceful : report.graceful = true ↔
    (∀ i id, begun.registry.frames[i]? = some id → .returned k i true id ∈ trace past) ∧
      (passed.before.finalizer.isSome → .finalizerEnded k .ok ∈ trace past)
  /-- Subscribers were told of that report. -/
  published : .published k report ∈ trace past

structure Asked (past : List Moment) (k : Nat) (c : Call) (timeout : Option Duration) (m : Moment) :
    Prop where
  member : m ∈ past
  event : m.event = .request timeout
  silent : m.happenings = []
  next : m.before.calls.length = k
  deadline : c.token.deadline = m.clock.now + (timeout.getD m.before.defaultTimeout).millis

section
variable {registry : Registry} {finalizer : Option Nat} {k : Nat} {c c' : Call} {e : Event}
  {happenings : List Happening} {past : List Moment}

theorem Call.Step.deadline (step : c.Step registry finalizer k e c' happenings) :
    c'.token.deadline = c.token.deadline := by
  cases step with
  | work work => cases work <;> rfl
  | close => exact Call.deadline_close _
  | _ => rfl

theorem Controller.Run.asked {start s : Controller} (run : Controller.Run start past s)
    (unused : start.calls = []) :
    ∀ k c, s.call? k = some c → ∃ timeout m, Asked past k c timeout m := by
  refine Controller.Run.calls (P := fun past k c => ∃ timeout m, Asked past k c timeout m) unused
    ?_ ?_ ?_ run
  · intro past m timeout deadline event silent fixed _ _
    refine ⟨timeout, m, by simp, event, silent, rfl, ?_⟩
    exact ((Clock.deadline?_eq_some_iff _ _ _).mp fixed).2
  · rintro past m k c ⟨timeout, m', asked⟩ _ _
    exact ⟨timeout, m', List.mem_append_left _ asked.member, asked.event, asked.silent, asked.next,
      asked.deadline⟩
  · rintro past registry clock before e happenings k c c' ⟨timeout, m, asked⟩ _ step
    exact ⟨timeout, m, List.mem_append_left _ asked.member, asked.event, asked.silent, asked.next,
      step.deadline.trans asked.deadline⟩

theorem finalizerTrace_eq (past : List Moment) (k : Nat) :
    finalizerTrace past k = (course past k).filter fun h => h.finalizer? = some k := by
  rw [finalizerTrace, course, List.filter_filter]
  refine List.filter_congr fun h _ => ?_
  cases h <;> simp [Happening.finalizer?, Happening.call?, Happening.stop?]

theorem returned_mem_iff {i deadline : Nat} {id : FrameId} {stop : Stop}
    (history : stopTrace past k i = stop.history k i deadline id) :
    .returned k i true id ∈ trace past ↔ stop.graceful = true := by
  have placed : Happening.returned k i true id ∈ trace past ↔
      Happening.returned k i true id ∈ stopTrace past k i := by
    simp [stopTrace, Happening.stop?]
  rw [placed, history]
  cases stop <;> simp [Stop.history, Stop.graceful]

theorem finalizer_of_course {deadline frames : Nat} {timeout : Duration} {stops : List Stop}
    {outcome : Option (Nat × Outcome)} {closed : List Closing}
    (course_eq : course past k = .began k frames timeout ::
      (Controller.failures k stops ++ finalizerHistory k deadline outcome ++ closed.map (c.closes k))) :
    finalizerTrace past k = finalizerHistory k deadline outcome := by
  have failures : (Controller.failures k stops).filter (fun h => h.finalizer? = some k) = [] := by
    refine List.filter_eq_nil_iff.mpr fun h failed => ?_
    obtain ⟨i, message, -, rfl⟩ := mem_failures.mp failed
    simp [Happening.finalizer?]
  have closings : (closed.map (c.closes k)).filter (fun h => h.finalizer? = some k) = [] := by
    refine List.filter_eq_nil_iff.mpr fun h member => ?_
    obtain ⟨next, -, rfl⟩ := List.mem_map.mp member
    cases next <;> simp [Call.closes, Happening.finalizer?]
  rw [finalizerTrace_eq, course_eq, List.filter_cons_of_neg (by simp [Happening.finalizer?]),
    List.filter_append, List.filter_append, failures, closings]
  cases outcome <;> simp [finalizerHistory, Happening.finalizer?]

end

section
variable {registry : Registry} {clock : Clock} {s s' start : Controller} {e : Event}
  {happenings : List Happening} {past : List Moment} {k : Nat}

theorem Controller.Step.returned_iff (step : Controller.Step registry clock s e s' happenings) {i : Nat}
    {graceful : Bool} {id : FrameId} : .returned k i graceful id ∈ happenings ↔
      e = .finish k i graceful ∧ registry.frames[i]? = some id := by
  have silent : ∀ j stops, Happening.returned k i graceful id ∉ Controller.failures j stops :=
    fun j stops => not_mem_failures nofun
  cases step with
  | work found work =>
    cases work with
    | stop here move =>
      cases move with
      | finish registered =>
        simp only [List.mem_singleton, Happening.returned.injEq, Event.finish.injEq]
        constructor
        · rintro ⟨rfl, rfl, rfl, rfl⟩
          exact ⟨⟨rfl, rfl, rfl⟩, registered⟩
        · rintro ⟨⟨rfl, rfl, rfl⟩, there⟩
          exact ⟨rfl, rfl, rfl, Option.some.inj (there.symm.trans registered)⟩
      | _ => simp
    | finalize => simp [silent]
    | skip => simp [silent]
    | endFinalizer => simp
  | @close _ c next => cases next <;> simp [Call.closes]
  | _ => simp

theorem Controller.Run.returned_iff (run : Controller.Run start past s) {i : Nat} {graceful : Bool}
    {id : FrameId} : .returned k i graceful id ∈ trace past ↔
      ∃ m ∈ past, m.event = .finish k i graceful ∧ m.registry.frames[i]? = some id := by
  rw [trace, List.mem_flatMap]
  refine exists_congr fun m => and_congr_right fun member => ?_
  obtain ⟨s', step⟩ := run.moment member
  exact step.returned_iff

end

theorem wellFinalized_iff {past : List Moment} {k deadline : Nat} {outcome : Option (Nat × Outcome)}
    (finalized : finalizerTrace past k = finalizerHistory k deadline outcome) :
    wellFinalized outcome = true ↔ (outcome.isSome → .finalizerEnded k .ok ∈ trace past) := by
  have placed : Happening.finalizerEnded k .ok ∈ trace past ↔
      Happening.finalizerEnded k .ok ∈ finalizerTrace past k := by
    simp [finalizerTrace, Happening.finalizer?]
  rw [placed, finalized]
  cases outcome with
  | none => simp [wellFinalized]
  | some f => simp [wellFinalized, finalizerHistory, eq_comm]

theorem Phase.late_of_closed {phase : Phase} {next : Closing} (closed : next ∈ phase.closed) :
    phase.late = true := by
  cases phase with
  | closing _ => rfl
  | ended _ => rfl
  | _ => cases closed

/-- Every sequence that has published its report has an account. -/
theorem Controller.Run.account_of_published {start s : Controller} {past : List Moment} {k : Nat} {c : Call}
    (run : Controller.Run start past s) (unused : start.calls = []) (found : s.call? k = some c)
    (published : .publish ∈ c.phase.closed) :
    ∃ timeout asked begun passed, Account past k c.report timeout asked begun passed := by
  obtain ⟨timeout, asked, request⟩ := run.asked unused k c found
  cases run.begun unused k c found with
  | never _ _ outside => rcases outside with phase | phase <;> simp [phase, Phase.closed] at published
  | @once begun acquired size _ stops others =>
    obtain ⟨passed, finalizer, through⟩ :=
      (run.passed unused k c found).of_late (Phase.late_of_closed published)
    have finalized := finalizer_of_course through.course
    have present : passed.before.finalizer.isSome = finalizer.isSome := by simp [through.set]
    refine ⟨timeout, asked, begun, passed,
      { request := ⟨request.member, request.event, request.silent, request.next⟩
        deadline := request.deadline
        acquired := acquired
        frames := size
        stops := fun i id registered => ?_
        others := others
        barrier := through.barrier
        finalizer := ?_
        graceful := ?_
        published := ?_ }⟩
    · obtain ⟨stop, found, history⟩ := stops i id registered
      rw [history]
      exact Stop.history_of_ended
        (List.all_eq_true.mp through.ended stop (List.mem_of_getElem? found)) ..
    · cases finalizer with
      | none => exact ⟨.ok, by simpa [through.set, Call.report] using finalized⟩
      | some f => exact ⟨f.2, by simpa [through.set, Call.report] using finalized⟩
    · rw [present, ← wellFinalized_iff finalized]
      change c.graceful = true ↔ _
      rw [through.verdict, Bool.and_eq_true, List.all_eq_true]
      refine and_congr_left fun _ => ⟨fun graceful i id registered => ?_, fun returned stop member => ?_⟩
      · obtain ⟨stop, found, history⟩ := stops i id registered
        exact (returned_mem_iff history).mpr (graceful stop (List.mem_of_getElem? found))
      · -- Every stop is that of a frame that was registered when the sequence began.
        obtain ⟨i, found⟩ := List.mem_iff_getElem?.mp member
        have bound : i < begun.registry.frames.length := by
          have := (List.getElem?_eq_some_iff.mp found).1
          rwa [size] at this
        obtain ⟨stop', found', history⟩ := stops i _ (List.getElem?_eq_getElem bound)
        cases Option.some.inj (found.symm.trans found')
        exact (returned_mem_iff history).mp (returned i _ (List.getElem?_eq_getElem bound))
    · have member : .published k c.report ∈ Shutdown.course past k := by
        rw [through.course]
        refine List.mem_cons_of_mem _ (List.mem_append_right _ ?_)
        exact List.mem_map.mpr ⟨.publish, published, rfl⟩
      exact (List.mem_filter.mp member).1

theorem Controller.Run.account {start s : Controller} {past : List Moment} {k : Nat} {c : Call}
    {report : Report} (run : Controller.Run start past s) (unused : start.calls = [])
    (found : s.call? k = some c) (ended : c.phase = .ended report) :
    ∃ timeout asked begun passed, Account past k report timeout asked begun passed := by
  obtain ⟨passed, finalizer, through⟩ := (run.passed unused k c found).of_late (by rw [ended]; rfl)
  rw [through.report report ended]
  exact run.account_of_published unused found (by simp [ended, Phase.closed])

end FrameHost.Shutdown
