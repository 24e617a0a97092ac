import FrameHost.Proofs.Shutdown.Record

/-! The course of a call and its verdict.

`Passed` reads the course off the phase that a call has reached. The verdict goes down in three
places: when a stop returns without grace, at the barrier for stops that panicked, and when the
finalizer ends otherwise than well. -/

set_option autoImplicit false

namespace FrameHost.Shutdown

def Stop.graceful : Stop → Bool
  | .returned graceful => graceful
  | _ => false

/-- The closing steps that a call has behind it. -/
def Phase.closed : Phase → List Closing
  | .closing .cancel => []
  | .closing .count => [.cancel]
  | .closing .summarize => [.cancel, .count]
  | .closing .closeLog => [.cancel, .count, .summarize]
  | .closing .publish => [.cancel, .count, .summarize, .closeLog]
  | .closing .release => [.cancel, .count, .summarize, .closeLog, .publish]
  | .ended _ => [.cancel, .count, .summarize, .closeLog, .publish, .release]
  | _ => []

def Phase.late : Phase → Bool
  | .closing _ | .ended _ => true
  | _ => false

def finalizerHistory (k deadline : Nat) : Option (Nat × Outcome) → List Happening
  | some (f, outcome) => [.finalizerCalled k f deadline, .finalizerEnded k outcome]
  | none => []

def wellFinalized : Option (Nat × Outcome) → Bool
  | some (_, outcome) => outcome = .ok
  | none => true

section
variable {k : Nat} {c : Call}

@[simp] theorem Call.stops_close (next : Closing) : (c.close next).stops = c.stops := by
  cases next <;> rfl

@[simp] theorem Call.graceful_close (next : Closing) : (c.close next).graceful = c.graceful := by
  cases next <;> rfl

@[simp] theorem Call.timeout_close (next : Closing) : (c.close next).timeout = c.timeout := by
  cases next <;> rfl

@[simp] theorem Call.deadline_close (next : Closing) :
    (c.close next).token.deadline = c.token.deadline := by
  cases next <;> rfl

@[simp] theorem Call.report_close (next : Closing) : (c.close next).report = c.report := by
  simp [Call.report]

@[simp] theorem Call.closes_close (next later : Closing) :
    (c.close next).closes k later = c.closes k later := by
  cases later <;> simp [Call.closes]

theorem Call.closed_close {next : Closing} (closing : c.phase = .closing next) :
    (c.close next).phase.closed = c.phase.closed ++ [next] := by
  rw [closing]
  cases next <;> rfl

theorem Call.late_close (next : Closing) : (c.close next).phase.late = true := by
  cases next <;> rfl

@[simp] theorem Call.stop?_closes (next : Closing) : (c.closes k next).stop? = none := by
  cases next <;> rfl

theorem all_set {stops : List Stop} {i : Nat} {stop next : Stop} {p : Stop → Bool}
    (found : stops[i]? = some stop) (held : p stop = true) :
    (stops.set i next).all p = (stops.all p && p next) := by
  induction stops generalizing i with
  | nil => cases found
  | cons first rest ih =>
    cases i with
    | zero =>
      cases Option.some.inj found
      simp [held, Bool.and_comm]
    | succ i =>
      simp only [List.set_cons_succ, List.all_cons, ih found, Bool.and_assoc]

theorem verdict_at_barrier {stops : List Stop} (ended : stops.all Stop.ended = true) :
    (stops.all Stop.clean && (Controller.failures k stops).isEmpty) = stops.all Stop.graceful := by
  rw [Bool.eq_iff_iff]
  simp only [Bool.and_eq_true, List.all_eq_true, List.isEmpty_iff] at ended ⊢
  constructor
  · rintro ⟨clean, none⟩ stop member
    cases stop with
    | spawned => cases ended _ member
    | invoked => cases ended _ member
    | returned graceful => exact clean _ member
    | panicked message =>
      obtain ⟨i, found⟩ := List.mem_iff_getElem?.mp member
      have failed : Happening.stopFailed k i message ∈ Controller.failures k stops :=
        mem_failures.mpr ⟨i, message, found, rfl⟩
      simp [none] at failed
  · -- A stop that returned with grace is neither without grace nor among the failures.
    intro graceful
    refine ⟨fun stop member => ?_, List.eq_nil_iff_forall_not_mem.mpr fun h failed => ?_⟩
    · cases stop with
      | returned g => exact graceful _ member
      | _ => rfl
    · obtain ⟨i, message, found, -⟩ := mem_failures.mp failed
      cases graceful _ (List.mem_of_getElem? found)

end

/-- The course of a call that is past its finalizer, if there was one. -/
structure Finished (past : List Moment) (k : Nat) (c : Call) (m : Moment)
    (finalizer : Option (Nat × Outcome)) : Prop where
  report : ∀ report, c.phase = .ended report → report = c.report
  ended : c.stops.all Stop.ended = true
  barrier : occurrences past (.passBarrier k) = [m]
  set : m.before.finalizer = finalizer.map Prod.fst
  course : course past k = .began k c.stops.length c.timeout ::
    (Controller.failures k c.stops ++ finalizerHistory k c.token.deadline finalizer ++
      c.phase.closed.map (c.closes k))
  verdict : c.graceful = (c.stops.all Stop.graceful && wellFinalized finalizer)

/-- What a run says of the course of a call and of its verdict so far. -/
inductive Passed (past : List Moment) (k : Nat) (c : Call) : Prop where
  | queued (phase : c.phase = .queued) (stops : c.stops = []) (course : course past k = [])
      (barrier : occurrences past (.passBarrier k) = []) (verdict : c.graceful = true)
  | stopping (phase : c.phase = .stopping)
      (course : course past k = [.began k c.stops.length c.timeout])
      (barrier : occurrences past (.passBarrier k) = [])
      (verdict : c.graceful = c.stops.all Stop.clean)
  | finalizing (m : Moment) (f : Nat) (phase : c.phase = .finalizing)
      (ended : c.stops.all Stop.ended = true)
      (barrier : occurrences past (.passBarrier k) = [m]) (set : m.before.finalizer = some f)
      (course : course past k = .began k c.stops.length c.timeout ::
        (Controller.failures k c.stops ++ [.finalizerCalled k f c.token.deadline]))
      (verdict : c.graceful = c.stops.all Stop.graceful)
  | late (m : Moment) (finalizer : Option (Nat × Outcome)) (phase : c.phase.late = true)
      (finished : Finished past k c m finalizer)
  | abandoned (phase : c.phase = .abandoned)

section
variable {past : List Moment} {k : Nat} {c : Call}

/-! What is known of a call in a given phase. -/

theorem Passed.of_queued (passed : Passed past k c) (now : c.phase = .queued) :
    course past k = [] ∧ occurrences past (.passBarrier k) = [] ∧ c.graceful = true := by
  cases passed with
  | queued _ _ course barrier verdict => exact ⟨course, barrier, verdict⟩
  | late _ _ phase => simp [now, Phase.late] at phase
  | finalizing _ _ phase => simp [now] at phase
  | _ phase => simp [now] at phase

theorem Passed.of_stopping (passed : Passed past k c) (now : c.phase = .stopping) :
    course past k = [.began k c.stops.length c.timeout] ∧ occurrences past (.passBarrier k) = [] ∧
      c.graceful = c.stops.all Stop.clean := by
  cases passed with
  | stopping _ course barrier verdict => exact ⟨course, barrier, verdict⟩
  | late _ _ phase => simp [now, Phase.late] at phase
  | finalizing _ _ phase => simp [now] at phase
  | _ phase => simp [now] at phase

theorem Passed.of_finalizing (passed : Passed past k c) (now : c.phase = .finalizing) :
    ∃ m f, c.stops.all Stop.ended = true ∧ occurrences past (.passBarrier k) = [m] ∧
      m.before.finalizer = some f ∧
      course past k = .began k c.stops.length c.timeout ::
        (Controller.failures k c.stops ++ [.finalizerCalled k f c.token.deadline]) ∧
      c.graceful = c.stops.all Stop.graceful := by
  cases passed with
  | finalizing m f _ ended barrier set course verdict =>
    exact ⟨m, f, ended, barrier, set, course, verdict⟩
  | late _ _ phase => simp [now, Phase.late] at phase
  | _ phase => simp [now] at phase

theorem Passed.of_late (passed : Passed past k c) (now : c.phase.late = true) :
    ∃ m finalizer, Finished past k c m finalizer := by
  cases passed with
  | late m finalizer _ finished => exact ⟨m, finalizer, finished⟩
  | finalizing _ _ phase => simp [phase, Phase.late] at now
  | _ phase => simp [phase, Phase.late] at now

theorem Passed.pending (passed : Passed past k c) {i : Nat} {stop : Stop} (found : c.stops[i]? = some stop)
    (unended : stop.ended = false) : c.phase = .stopping ∨ c.phase = .abandoned := by
  have pending : ¬c.stops.all Stop.ended = true := fun ended =>
    Bool.false_ne_true (unended.symm.trans
      (List.all_eq_true.mp ended stop (List.mem_of_getElem? found)))
  cases passed with
  | queued _ stops => simp [stops] at found
  | stopping phase => exact .inl phase
  | finalizing _ _ _ ended => exact (pending ended).elim
  | late _ _ _ finished => exact (pending finished.ended).elim
  | abandoned phase => exact .inr phase

end

section
variable {past : List Moment} {registry : Registry} {clock : Clock} {before : Controller} {e : Event}
  {happenings : List Happening} {k : Nat} {c c' : Call}

theorem course_step (step : c.Step registry before.finalizer k e c' happenings)
    (plain : ∀ h ∈ happenings, h.stop? = none) :
    course (past ++ [⟨registry, clock, before, e, happenings⟩]) k = course past k ++ happenings := by
  rw [course_concat]
  congr 1
  exact List.filter_eq_self.mpr fun h member => by simp [step.call? h member, plain h member]

theorem course_stop {i deadline : Nat} {stop next : Stop} {h : Happening}
    (move : stop.Move registry k i deadline e next h) :
    course (past ++ [⟨registry, clock, before, e, [h]⟩]) k = course past k := by
  simp [course_concat, move.stop?]

theorem stop?_of_mem_called {stops : List Stop} {deadline : Nat} (f : Nat) :
    ∀ h ∈ Controller.failures k stops ++ [.finalizerCalled k f deadline], h.stop? = none := by
  intro h member
  rcases List.mem_append.mp member with failed | called
  · exact stop?_of_mem_failures failed
  · rw [List.mem_singleton.mp called]
    rfl

theorem Passed.stop {i : Nat} {stop next : Stop} {h : Happening} (passed : Passed past k c)
    (found : c.stops[i]? = some stop) (move : stop.Move registry k i c.token.deadline e next h) :
    Passed (past ++ [⟨registry, clock, before, e, [h]⟩]) k
      { c with stops := c.stops.set i next, graceful := c.graceful && next.clean } := by
  rcases passed.pending found move.pending.1 with phase | phase
  · obtain ⟨course, barrier, verdict⟩ := passed.of_stopping phase
    refine .stopping phase ?_ ?_ ?_
    · simpa [course_stop move] using course
    · rw [occurrences_left move.event_ne.2, barrier]
    · rw [all_set found move.pending.2, verdict]
  · exact .abandoned phase

theorem Passed.work {happenings : List Happening} (passed : Passed past k c)
    (work : c.Work registry before.finalizer k e c' happenings) :
    Passed (past ++ [⟨registry, clock, before, e, happenings⟩]) k c' := by
  cases work with
  | stop found move => exact passed.stop found move
  | @finalize f stopping ended set =>
    obtain ⟨course, barrier, verdict⟩ := passed.of_stopping stopping
    refine .finalizing
      ⟨registry, clock, before, .passBarrier k,
        Controller.failures k c.stops ++ [.finalizerCalled k f c.token.deadline]⟩
      f rfl ended ?_ set ?_ ?_
    · simp [occurrences_concat, barrier]
    · rw [course_step (.work (.finalize stopping ended set)) (stop?_of_mem_called f), course]
      rfl
    · -- Stops that panicked have not lowered the verdict yet; the barrier does that for them.
      exact (congrArg (· && _) verdict).trans (verdict_at_barrier ended)
  | skip stopping ended unset =>
    obtain ⟨course, barrier, verdict⟩ := passed.of_stopping stopping
    refine .late ⟨registry, clock, before, .passBarrier k, Controller.failures k c.stops⟩ none rfl
      ⟨nofun, ended, ?_, unset, ?_, ?_⟩
    · simp [occurrences_concat, barrier]
    · rw [course_step (.work (.skip stopping ended unset)) fun h => stop?_of_mem_failures, course]
      simp [finalizerHistory, Phase.closed]
    · have all := (congrArg (· && _) verdict).trans (verdict_at_barrier (k := k) ended)
      simpa [wellFinalized] using all
  | @endFinalizer outcome finalizing =>
    obtain ⟨m, f, ended, barrier, set, course, verdict⟩ := passed.of_finalizing finalizing
    refine .late m (some (f, outcome)) rfl ⟨nofun, ended, ?_, set, ?_, ?_⟩
    · rw [occurrences_left (by simp), barrier]
    · rw [course_step (.work (.endFinalizer finalizing)) (by simp [Happening.stop?]), course]
      simp [finalizerHistory, Phase.closed]
    · simp [wellFinalized, verdict]

theorem Passed.close {next : Closing} (passed : Passed past k c) (closing : c.phase = .closing next) :
    Passed (past ++ [⟨registry, clock, before, .close k, [c.closes k next]⟩]) k (c.close next) := by
  obtain ⟨m, finalizer, finished⟩ := passed.of_late (by rw [closing]; rfl)
  refine .late m finalizer (Call.late_close next) ⟨?_, ?_, ?_, finished.set, ?_, ?_⟩
  · intro report same
    cases next <;> cases same
    rfl
  · rw [Call.stops_close, finished.ended]
  · rw [occurrences_left (by simp), finished.barrier]
  · have step : c.Step registry before.finalizer k (.close k) (c.close next) [c.closes k next] :=
      .close closing
    rw [course_step step (by simp), finished.course, Call.closed_close closing]
    simp
  · simpa using finished.verdict

theorem Passed.worked (passed : Passed past k c)
    (step : c.Step registry before.finalizer k e c' happenings) :
    Passed (past ++ [⟨registry, clock, before, e, happenings⟩]) k c' := by
  cases step with
  | acquire queued =>
    obtain ⟨course, barrier, verdict⟩ := passed.of_queued queued
    refine .stopping rfl ?_ ?_ ?_
    · rw [course_step (.acquire queued) (by simp [Happening.stop?]), course]
      simp [Call.begun]
    · simpa [occurrences_concat] using barrier
    · simp [Call.begun, verdict, Stop.clean]
  | work work => exact passed.work work
  | close closing => exact passed.close closing
  | withdraw => exact .abandoned rfl
  | leave => exact .abandoned rfl

theorem Passed.made {m : Moment} {timeout : Option Duration} {length : Duration} {token : Token}
    (event : m.event = .request timeout) (none : m.happenings = [])
    (fresh : ∀ m' ∈ past, m'.event.call? ≠ some k) (quiet : ∀ h ∈ trace past, h.call? ≠ some k) :
    Passed (past ++ [m]) k { timeout := length, token } := by
  refine .queued rfl rfl ?_ ?_ rfl
  · rw [course_left (by simp [none])]
    exact List.filter_eq_nil_iff.mpr fun h member => by simp [quiet h member]
  · rw [occurrences_left (by simp [event])]
    refine List.filter_eq_nil_iff.mpr fun m' member => ?_
    simpa using fun same => fresh m' member (by rw [same]; rfl)

theorem Passed.left {m : Moment} (passed : Passed past k c) (other : m.event.call? ≠ some k)
    (quiet : ∀ h ∈ m.happenings, h.call? ≠ some k) : Passed (past ++ [m]) k c := by
  have still : occurrences (past ++ [m]) (.passBarrier k) = occurrences past (.passBarrier k) :=
    occurrences_left fun same => other (by rw [same]; rfl)
  have same : course (past ++ [m]) k = course past k := course_left quiet
  cases passed with
  | queued phase stops course barrier verdict =>
    exact .queued phase stops (same.trans course) (still.trans barrier) verdict
  | stopping phase course barrier verdict =>
    exact .stopping phase (same.trans course) (still.trans barrier) verdict
  | finalizing m f phase ended barrier set course verdict =>
    exact .finalizing m f phase ended (still.trans barrier) set (same.trans course) verdict
  | late m finalizer phase finished =>
    exact .late m finalizer phase ⟨finished.report, finished.ended, still.trans finished.barrier,
      finished.set, same.trans finished.course, finished.verdict⟩
  | abandoned phase => exact .abandoned phase

end

theorem Controller.Run.passed {start s : Controller} {past : List Moment}
    (run : Controller.Run start past s) (unused : start.calls = []) :
    ∀ k c, s.call? k = some c → Passed past k c := by
  refine Controller.Run.calls unused ?_ ?_ ?_ run
  · exact fun _ _ _ _ event none _ fresh quiet => .made event none fresh quiet
  · exact fun _ _ _ _ passed other quiet => passed.left other quiet
  · exact fun _ _ _ _ _ _ _ _ _ passed _ step => passed.worked step

end FrameHost.Shutdown
