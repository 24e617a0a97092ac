import FrameHost.Proofs.Shutdown.Timing

/-! All that happens in a sequence, in its order, and the records that it leaves in the log.

A sequence begins, its frames stop side by side, and then come the failed stops in the order of the
frames, the finalizer and the closing steps. What each frame and the finalizer have done decides which
records there are. -/

set_option autoImplicit false

namespace FrameHost.Shutdown

def story (past : List Moment) (k : Nat) : List Happening := (trace past).filter fun h => h.call? = some k

def stopStory (past : List Moment) (k : Nat) : List Happening :=
  (trace past).filter fun h => h.stop?.map Prod.fst = some k

/-- The place and the identity of a frame that has returned without grace. -/
def Happening.ungraceful? : Happening → Option (Nat × FrameId)
  | .returned _ i false id => some (i, id)
  | _ => none

def panics (stops : List Stop) : List (Nat × String) :=
  stops.zipIdx.filterMap fun (stop, i) =>
    match stop with
    | .panicked message => some (i, message)
    | _ => none

/-! The records of a sequence, apart from its summary. -/

def announcement (frames : Nat) (timeout : Duration) : Log.Record :=
  { level := .info, target, message := "Shutting down frames..."
    fields := [("frames", .count frames), ("timeout_secs", .number timeout.toFloat)] }

def withoutGrace (id : FrameId) : Log.Record :=
  { level := .debug, target, message := "Frame stopped without grace", fields := [("frame", .text id.text)] }

def stopFailure (message : String) : Log.Record :=
  { level := .error, target, message := "Frame shutdown task failed"
    fields := [("error", .text (taskFailure message))] }

def finalizerFailure : Outcome → Option Log.Record
  | .ok => none
  | .failed error => some
      { level := .error, target, message := "Finalizer failed"
        fields := [("finalizer", .flag true), ("error", .text error)] }
  | .panicked => some
      { level := .error, target, message := "Finalizer panicked", fields := [("finalizer", .flag true)] }

section
variable {past : List Moment} {m : Moment} {k : Nat}

theorem story_concat : story (past ++ [m]) k =
    story past k ++ m.happenings.filter fun h => h.call? = some k := by
  simp [story]

theorem stopStory_concat : stopStory (past ++ [m]) k =
    stopStory past k ++ m.happenings.filter fun h => h.stop?.map Prod.fst = some k := by
  simp [stopStory]

theorem story_left (quiet : ∀ h ∈ m.happenings, h.call? ≠ some k) : story (past ++ [m]) k = story past k := by
  rw [story_concat, List.append_right_eq_self]
  exact List.filter_eq_nil_iff.mpr fun h member => by simp [quiet h member]

theorem stopStory_left (quiet : ∀ h ∈ m.happenings, h.call? ≠ some k) :
    stopStory (past ++ [m]) k = stopStory past k := by
  rw [stopStory_concat, List.append_right_eq_self]
  refine List.filter_eq_nil_iff.mpr fun h member stops => quiet h member ?_
  obtain ⟨⟨_, i⟩, stop, rfl⟩ := Option.map_eq_some_iff.mp (of_decide_eq_true stops)
  exact call?_of_stop? stop

theorem stopStory_plain (plain : ∀ h ∈ m.happenings, h.stop? = none) :
    stopStory (past ++ [m]) k = stopStory past k := by
  rw [stopStory_concat, List.append_right_eq_self]
  exact List.filter_eq_nil_iff.mpr fun h member => by simp [plain h member]

theorem story_eq_nil_iff : story past k = [] ↔ ∀ h ∈ trace past, h.call? ≠ some k := by
  rw [story, List.filter_eq_nil_iff]
  exact forall₂_congr fun h _ => by rw [decide_eq_true_eq]

theorem stopStory_quiet (quiet : ∀ h ∈ trace past, h.call? ≠ some k) : stopStory past k = [] := by
  refine List.filter_eq_nil_iff.mpr fun h member stops => quiet h member ?_
  obtain ⟨⟨_, i⟩, stop, rfl⟩ := Option.map_eq_some_iff.mp (of_decide_eq_true stops)
  exact call?_of_stop? stop

end

section
variable {registry : Registry} {clock : Clock} {before : Controller} {past : List Moment} {k : Nat}
  {c c' : Call} {e : Event} {happenings : List Happening}

theorem story_step (step : c.Step registry before.finalizer k e c' happenings) :
    story (past ++ [⟨registry, clock, before, e, happenings⟩]) k = story past k ++ happenings := by
  rw [story_concat]
  congr 1
  exact List.filter_eq_self.mpr fun h member => by simp [step.call? h member]

theorem stopStory_move {i deadline : Nat} {stop next : Stop} {h : Happening}
    (move : stop.Move registry k i deadline e next h) :
    stopStory (past ++ [⟨registry, clock, before, e, [h]⟩]) k = stopStory past k ++ [h] := by
  rw [stopStory_concat]
  simp [move.stop?]

theorem Stop.Move.ungraceful_cases {i deadline : Nat} {stop next : Stop} {h : Happening}
    (move : stop.Move registry k i deadline e next h) :
    h.ungraceful? = none ∨ ∃ id, h.ungraceful? = some (i, id) ∧ next = .returned false := by
  cases move with
  | @finish graceful =>
    cases graceful with
    | true => exact .inl rfl
    | false => exact .inr ⟨_, rfl, rfl⟩
  | _ => exact .inl rfl

theorem Call.Step.abandoned (step : c.Step registry before.finalizer k e c' happenings)
    (abandoned : c.phase = .abandoned) : c'.phase = .abandoned := by
  cases step with
  | acquire queued => simp [abandoned] at queued
  | work work =>
    cases work with
    | stop => exact abandoned
    | finalize stopping => simp [abandoned] at stopping
    | skip stopping => simp [abandoned] at stopping
    | endFinalizer finalizing => simp [abandoned] at finalizing
  | close closing => simp [abandoned] at closing
  | withdraw => rfl
  | leave => rfl

theorem Passed.unstopped (passed : Passed past k c) (queued : c.phase = .queued) : c.stops = [] := by
  cases passed with
  | queued _ stops => exact stops
  | stopping phase => simp [queued] at phase
  | finalizing _ _ phase => simp [queued] at phase
  | late _ _ phase => simp [queued, Phase.late] at phase
  | abandoned phase => simp [queued] at phase

theorem Passed.course_eq (passed : Passed past k c) (begun : c.phase ≠ .queued)
    (kept : c.phase ≠ .abandoned) : ∃ first rest, course past k = first :: rest := by
  cases passed with
  | queued phase => exact (begun phase).elim
  | stopping _ course => exact ⟨_, _, course⟩
  | finalizing _ _ _ _ _ _ course => exact ⟨_, _, course⟩
  | late _ _ _ finished => exact ⟨_, _, finished.course⟩
  | abandoned phase => exact (kept phase).elim

end

/-- What a run has told of a call: its beginning, the stops of its frames, and the rest of its course. -/
structure Recorded (past : List Moment) (k : Nat) (c : Call) : Prop where
  passed : Passed past k c
  fresh : c.phase = .queued → story past k = []
  told : c.phase ≠ .abandoned →
    story past k = (course past k).take 1 ++ stopStory past k ++ (course past k).drop 1
  panicked : ∀ i message, c.stops[i]? = some (.panicked message) ↔ ∃ m ∈ past, m.event = .panic k i message
  ungraceful : (((stopStory past k).filterMap Happening.ungraceful?).map Prod.fst).Nodup
  returned : ∀ i id, (i, id) ∈ (stopStory past k).filterMap Happening.ungraceful? →
    c.stops[i]? = some (.returned false)

section
variable {registry : Registry} {clock : Clock} {before : Controller} {past : List Moment} {k : Nat}
  {c c' : Call} {e : Event} {happenings : List Happening} {m : Moment}

theorem Recorded.left (recorded : Recorded past k c) (other : m.event.call? ≠ some k)
    (quiet : ∀ h ∈ m.happenings, h.call? ≠ some k) : Recorded (past ++ [m]) k c := by
  have same : course (past ++ [m]) k = course past k := course_left quiet
  have stops : stopStory (past ++ [m]) k = stopStory past k := stopStory_left quiet
  refine ⟨recorded.passed.left other quiet, ?_, ?_, fun i message => ?_, ?_, ?_⟩
  · rw [story_left quiet]
    exact recorded.fresh
  · rw [story_left quiet, same, stops]
    exact recorded.told
  · rw [recorded.panicked, exists_concat_iff, or_iff_left fun event => other (by rw [event]; rfl)]
  · rw [stops]
    exact recorded.ungraceful
  · rw [stops]
    exact recorded.returned

theorem Recorded.made (stops : c.stops = []) (passed : Passed past k c) (silent : story past k = [])
    (quiet : ∀ m ∈ past, m.event.call? ≠ some k) : Recorded past k c := by
  have none := story_eq_nil_iff.mp silent
  have still : course past k = [] := List.filter_eq_nil_iff.mpr fun h member => by simp [none h member]
  have unstopped := stopStory_quiet none
  refine ⟨passed, fun _ => silent, fun _ => by rw [silent, still, unstopped]; rfl, fun i message => ?_, ?_, ?_⟩
  · rw [stops]
    refine iff_of_false nofun ?_
    rintro ⟨m, member, event⟩
    exact quiet m member (by rw [event]; rfl)
  · rw [unstopped]
    exact .nil
  · rw [unstopped]
    nofun

theorem Recorded.plain (recorded : Recorded past k c)
    (step : c.Step registry before.finalizer k e c' happenings) (begun : c.phase = .queued → c'.phase = .abandoned)
    (unqueued : c'.phase ≠ .queued) (stops : c'.stops = c.stops) (other : ∀ i message, e ≠ .panic k i message)
    (plain : ∀ h ∈ happenings, h.stop? = none) :
    Recorded (past ++ [⟨registry, clock, before, e, happenings⟩]) k c' := by
  have same : stopStory (past ++ [⟨registry, clock, before, e, happenings⟩]) k = stopStory past k :=
    stopStory_plain plain
  refine ⟨recorded.passed.worked step, fun queued => (unqueued queued).elim, fun kept => ?_,
    fun i message => ?_, ?_, ?_⟩
  · have unabandoned : c.phase ≠ .abandoned := fun abandoned => kept (step.abandoned abandoned)
    -- The course has begun, so what the step adds to it comes after the stops.
    obtain ⟨first, rest, starts⟩ := recorded.passed.course_eq (fun queued => kept (begun queued)) unabandoned
    rw [story_step step, course_step step plain, same, recorded.told unabandoned, starts]
    simp
  · rw [stops, recorded.panicked, exists_concat_iff, or_iff_left (other i message)]
  · rw [same]
    exact recorded.ungraceful
  · rw [same, stops]
    exact recorded.returned

theorem Recorded.acquire (recorded : Recorded past k c) (queued : c.phase = .queued) :
    Recorded (past ++ [⟨registry, clock, before, .acquire k, [.began k registry.size c.timeout]⟩]) k
      (c.begun registry.size) := by
  have step : c.Step registry before.finalizer k (.acquire k) (c.begun registry.size)
      [.began k registry.size c.timeout] := .acquire queued
  have plain : ∀ h ∈ [Happening.began k registry.size c.timeout], h.stop? = none := by simp [Happening.stop?]
  have silent := recorded.fresh queued
  have unstopped : stopStory past k = [] := stopStory_quiet (story_eq_nil_iff.mp silent)
  have same : stopStory (past ++ [⟨registry, clock, before, .acquire k, [.began k registry.size c.timeout]⟩]) k = [] :=
    (stopStory_plain plain).trans unstopped
  refine ⟨recorded.passed.worked step, fun waits => ?_, fun _ => ?_, fun i message => ?_, ?_, ?_⟩
  · cases waits
  · rw [story_step step, course_step step plain, same, silent, (recorded.passed.of_queued queued).1]
    rfl
  · have before := recorded.panicked i message
    have other : Event.acquire k ≠ .panic k i message := Event.noConfusion
    rw [recorded.passed.unstopped queued] at before
    rw [exists_concat_iff, or_iff_left other, ← before]
    simp [Call.begun, List.getElem?_replicate]
  · rw [same]
    exact .nil
  · rw [same]
    intro i id member
    cases member

theorem Recorded.stop (recorded : Recorded past k c) {j : Nat} {stop next : Stop} {h : Happening}
    (found : c.stops[j]? = some stop) (move : stop.Move registry k j c.token.deadline e next h) :
    Recorded (past ++ [⟨registry, clock, before, e, [h]⟩]) k
      { c with stops := c.stops.set j next, graceful := c.graceful && next.clean } := by
  have step : c.Step registry before.finalizer k e
      { c with stops := c.stops.set j next, graceful := c.graceful && next.clean } [h] :=
    .work (.stop found move)
  have pending := recorded.passed.pending found move.pending.1
  have bound := (List.getElem?_eq_some_iff.mp found).1
  have unended := move.pending.1
  have listed : (stopStory (past ++ [⟨registry, clock, before, e, [h]⟩]) k).filterMap Happening.ungraceful? =
      (stopStory past k).filterMap Happening.ungraceful? ++ h.ungraceful?.toList := by
    rw [stopStory_move move, List.filterMap_append]
    cases ends : h.ungraceful? <;> simp [ends]
  -- The stop that moves has not ended before, so the records of what has ended are of other frames.
  have apart {i : Nat} {ended : Stop} (there : c.stops[i]? = some ended) (through : ended.ended = true) : j ≠ i := by
    rintro rfl
    cases found.symm.trans there
    exact Bool.false_ne_true (unended.symm.trans through)
  refine ⟨recorded.passed.worked step, fun queued => ?_, fun kept => ?_, fun i message => ?_, ?_, fun i id => ?_⟩
  · rcases pending with phase | phase <;> cases phase.symm.trans queued
  · rcases pending with phase | phase
    · obtain ⟨begins, -⟩ := recorded.passed.of_stopping phase
      rw [story_step step, course_stop move, stopStory_move move, recorded.told kept, begins]
      simp
    · exact (kept phase).elim
  · rw [exists_concat_iff, ← recorded.panicked]
    by_cases own : j = i
    · subst own
      rw [List.getElem?_set_self bound, or_iff_right fun there => apart there rfl rfl]
      cases move <;> simp [eq_comm]
    · rw [List.getElem?_set_ne own, or_iff_left]
      intro event
      cases move <;> cases event
      exact own rfl
  · rw [listed]
    rcases move.ungraceful_cases with none | ⟨id, ends, -⟩
    · rw [none, Option.toList_none, List.append_nil]
      exact recorded.ungraceful
    · rw [ends, Option.toList_some, List.map_append, List.nodup_append]
      refine ⟨recorded.ungraceful, List.pairwise_singleton _ _, fun i old j' new same => ?_⟩
      obtain ⟨⟨_, id'⟩, before, rfl⟩ := List.mem_map.mp old
      cases List.mem_singleton.mp new
      exact apart (recorded.returned _ _ before) rfl same.symm
  · rw [listed, List.mem_append]
    rintro (before | now)
    · have there := recorded.returned i id before
      rw [List.getElem?_set_ne (apart there rfl), there]
    · rcases move.ungraceful_cases with none | ⟨id', ends, rfl⟩
      · rw [none] at now
        cases now
      · rw [ends] at now
        cases List.mem_singleton.mp now
        rw [List.getElem?_set_self bound]

theorem Recorded.worked (recorded : Recorded past k c)
    (step : c.Step registry before.finalizer k e c' happenings) :
    Recorded (past ++ [⟨registry, clock, before, e, happenings⟩]) k c' := by
  have whole := step
  cases step with
  | acquire queued => exact recorded.acquire queued
  | work work =>
    cases work with
    | stop found move => exact recorded.stop found move
    | @finalize f stopping =>
      refine recorded.plain whole ?_ nofun rfl nofun (stop?_of_mem_called f)
      simp [stopping]
    | skip stopping =>
      refine recorded.plain whole ?_ nofun rfl nofun fun h => stop?_of_mem_failures
      simp [stopping]
    | endFinalizer finalizing =>
      refine recorded.plain whole ?_ nofun rfl nofun (List.forall_mem_singleton.mpr rfl)
      simp [finalizing]
  | @close next closing =>
    refine recorded.plain whole ?_ ?_ (Call.stops_close _) nofun (List.forall_mem_singleton.mpr (Call.stop?_closes _))
    · simp [closing]
    · cases next <;> nofun
  | withdraw => exact recorded.plain whole (fun _ => rfl) nofun rfl nofun nofun
  | leave inside => exact recorded.plain whole (fun _ => rfl) nofun rfl nofun (List.forall_mem_singleton.mpr rfl)

end

theorem Controller.Run.recorded {start s : Controller} {past : List Moment}
    (run : Controller.Run start past s) (unused : start.calls = []) :
    ∀ k c, s.call? k = some c → Recorded past k c := by
  refine Controller.Run.calls unused ?_ ?_ ?_ run
  · intro past m timeout deadline event none _ fresh quiet
    refine .made rfl (.made event none fresh quiet) ?_ fun m' member => ?_
    · rw [story_left (by simp [none])]
      exact story_eq_nil_iff.mpr quiet
    · rcases List.mem_append.mp member with earlier | now
      · exact fresh m' earlier
      · rw [List.mem_singleton.mp now, event]
        nofun
  · exact fun _ _ _ _ recorded other quiet => recorded.left other quiet
  · exact fun _ _ _ _ _ _ _ _ _ recorded _ step => recorded.worked step

section
variable {stops : List Stop} {k : Nat}

theorem mem_panics {i : Nat} {message : String} :
    (i, message) ∈ panics stops ↔ stops[i]? = some (.panicked message) := by
  simp only [panics, List.mem_filterMap, Prod.exists, List.mk_mem_zipIdx_iff_getElem?]
  constructor
  · rintro ⟨stop, j, found, same⟩
    cases stop with
    | panicked =>
      cases same
      exact found
    | _ => cases same
  · exact fun found => ⟨_, i, found, rfl⟩

theorem panics_sorted : ((panics stops).map Prod.fst).Pairwise (· < ·) := by
  have places : (stops.zipIdx.map Prod.snd).Pairwise (· < ·) := by
    rw [List.zipIdx_map_snd]
    exact List.pairwise_lt_range'
  rw [List.pairwise_map, panics, List.pairwise_filterMap]
  refine (List.pairwise_map.mp places).imp fun {a b} before p first q second => ?_
  obtain ⟨stop, i⟩ := a
  obtain ⟨stop', j⟩ := b
  cases stop <;> cases first
  cases stop' <;> cases second
  exact before

theorem failures_eq : Controller.failures k stops = (panics stops).map fun p => .stopFailed k p.1 p.2 := by
  rw [Controller.failures, panics, List.map_filterMap]
  congr 1
  funext p
  obtain ⟨stop, i⟩ := p
  cases stop <;> rfl

end

section
variable {registry : Registry} {clock : Clock} {s s' start : Controller} {e : Event}
  {happenings : List Happening} {past : List Moment} {k : Nat}

theorem Controller.Step.finalizerEnded_iff (step : Controller.Step registry clock s e s' happenings)
    {outcome : Outcome} : .finalizerEnded k outcome ∈ happenings ↔ e = .endFinalizer k outcome := by
  have silent : ∀ j stops, Happening.finalizerEnded k outcome ∉ Controller.failures j stops :=
    fun j stops => not_mem_failures nofun
  cases step with
  | work found work =>
    cases work with
    | stop here move => cases move <;> simp
    | finalize => simp [silent]
    | skip => simp [silent]
    | endFinalizer => simp [eq_comm]
  | @close _ c next => cases next <;> simp [Call.closes]
  | _ => simp

theorem Controller.Run.finalizerEnded_iff (run : Controller.Run start past s) {outcome : Outcome} :
    .finalizerEnded k outcome ∈ trace past ↔ ∃ m ∈ past, m.event = .endFinalizer k outcome := by
  rw [trace, List.mem_flatMap]
  refine exists_congr fun m => and_congr_right fun member => ?_
  obtain ⟨s', step⟩ := run.moment member
  exact step.finalizerEnded_iff

end

/-- What happens in a sequence from its beginning to its end, and what of this is recorded. -/
structure Chronicle (past : List Moment) (k : Nat) (report : Report) (timeout : Duration)
    (stops : List Happening) (failed : List (Nat × String)) (finalizer : Option (Nat × Outcome)) : Prop where
  told : story past k = .began k report.frames timeout :: stops ++
    (failed.map fun p => .stopFailed k p.1 p.2) ++ finalizerHistory k report.deadline finalizer ++
    [.cancelled k, .counted k report.graceful, .summarized k report.frames report.graceful, .logClosed k,
      .published k report, .released k]
  snapshot : ∃ m ∈ past, m.event = .acquire k ∧ report.frames = m.registry.size
  /-- Every frame has ended before the first failed stop is told. -/
  stopped : (∀ h ∈ stops, ∃ i, h.stop? = some (k, i)) ∧
    ∀ i < report.frames, ∃ h ∈ stops, h.stopped? = some (k, i)
  records : (story past k).filterMap Happening.record? = announcement report.frames timeout ::
    ((stops.filterMap Happening.ungraceful?).map fun p => withoutGrace p.2) ++
    (failed.map fun p => stopFailure p.2) ++ (finalizer.bind fun p => finalizerFailure p.2).toList ++
    [summary report.graceful report.frames]
  /-- There is one record for each frame whose shutdown has returned false. -/
  ungraceful : ((stops.filterMap Happening.ungraceful?).map Prod.fst).Nodup ∧
    ∀ i id, (i, id) ∈ stops.filterMap Happening.ungraceful? ↔
      ∃ m ∈ past, m.event = .finish k i false ∧ m.registry.frames[i]? = some id
  /-- There is one record for each frame that has panicked, in the order of the frames. -/
  panicked : (failed.map Prod.fst).Pairwise (· < ·) ∧
    ∀ i message, (i, message) ∈ failed ↔ ∃ m ∈ past, m.event = .panic k i message
  finalized : ∀ outcome, finalizer.map Prod.snd = some outcome ↔
    ∃ m ∈ past, m.event = .endFinalizer k outcome

theorem record?_of_stop? {h : Happening} (stop : h.stop?.isSome = true) :
    h.record? = h.ungraceful?.map fun p => withoutGrace p.2 := by
  cases h with
  | returned k i graceful id => cases graceful <;> rfl
  | invoked => rfl
  | panicked => rfl
  | _ => cases stop

theorem filterMap_record?_stops {stops : List Happening} (all : ∀ h ∈ stops, h.stop?.isSome = true) :
    stops.filterMap Happening.record? =
      (stops.filterMap Happening.ungraceful?).map fun p => withoutGrace p.2 := by
  induction stops with
  | nil => rfl
  | cons h rest ih =>
    have same := record?_of_stop? (all h (List.mem_cons_self ..))
    have later := ih fun x member => all x (List.mem_cons_of_mem _ member)
    cases first : h.ungraceful? with
    | none =>
      rw [first] at same
      rw [List.filterMap_cons_none same, List.filterMap_cons_none first, later]
    | some p =>
      rw [first] at same
      rw [List.filterMap_cons_some same, List.filterMap_cons_some first, later, List.map_cons]

theorem filterMap_record?_failed (k : Nat) (failed : List (Nat × String)) :
    (failed.map fun p => Happening.stopFailed k p.1 p.2).filterMap Happening.record? =
      failed.map fun p => stopFailure p.2 := by
  rw [List.filterMap_map, ← List.filterMap_eq_map]
  rfl

theorem filterMap_record?_finalizer (k deadline : Nat) (finalizer : Option (Nat × Outcome)) :
    (finalizerHistory k deadline finalizer).filterMap Happening.record? =
      (finalizer.bind fun p => finalizerFailure p.2).toList := by
  cases finalizer with
  | none => rfl
  | some p =>
    obtain ⟨f, outcome⟩ := p
    cases outcome <;> rfl

theorem finalizerEnded_mem_iff {past : List Moment} {k deadline : Nat} {finalizer : Option (Nat × Outcome)}
    (finalized : finalizerTrace past k = finalizerHistory k deadline finalizer) {outcome : Outcome} :
    .finalizerEnded k outcome ∈ trace past ↔ finalizer.map Prod.snd = some outcome := by
  have placed : Happening.finalizerEnded k outcome ∈ trace past ↔
      Happening.finalizerEnded k outcome ∈ finalizerTrace past k := by
    simp [finalizerTrace, Happening.finalizer?]
  rw [placed, finalized]
  cases finalizer <;> simp [finalizerHistory, eq_comm]

theorem ungraceful_mem_iff {past : List Moment} {k i : Nat} {id : FrameId} :
    (i, id) ∈ (stopStory past k).filterMap Happening.ungraceful? ↔ .returned k i false id ∈ trace past := by
  simp only [stopStory, List.mem_filterMap, List.mem_filter, decide_eq_true_eq]
  constructor
  · rintro ⟨h, ⟨member, stops⟩, same⟩
    cases h with
    | returned j i graceful id =>
      cases stops
      cases graceful <;> cases same
      exact member
    | _ => cases same
  · exact fun member => ⟨_, ⟨member, rfl⟩, rfl⟩

/-- Every sequence that has ended has its chronicle. -/
theorem Controller.Run.chronicle {start s : Controller} {past : List Moment} {k : Nat} {c : Call}
    {report : Report} (run : Controller.Run start past s) (unused : start.calls = [])
    (found : s.call? k = some c) (ended : c.phase = .ended report) :
    ∃ timeout stops failed finalizer, Chronicle past k report timeout stops failed finalizer := by
  have recorded := run.recorded unused k c found
  obtain ⟨_, _, begun, _, account⟩ := run.account unused found ended
  obtain ⟨member, acquired⟩ := mem_of_occurrences account.acquired
  obtain ⟨passed, finalizer, finished⟩ := recorded.passed.of_late (by rw [ended]; rfl)
  have course := finished.course
  cases finished.report report ended
  have told := recorded.told (by rw [ended]; nofun)
  rw [course, ended, failures_eq] at told
  -- The phase of an ended call has all closing steps behind it, which makes the story one closed list.
  replace told : story past k = .began k c.report.frames c.timeout :: stopStory past k ++
      ((panics c.stops).map fun p => .stopFailed k p.1 p.2) ++ finalizerHistory k c.report.deadline finalizer ++
      [.cancelled k, .counted k c.report.graceful, .summarized k c.report.frames c.report.graceful,
        .logClosed k, .published k c.report, .released k] := by
    simpa [Phase.closed, Call.closes, Call.report] using told
  have stops : ∀ h ∈ stopStory past k, ∃ i, h.stop? = some (k, i) := by
    intro h member
    obtain ⟨⟨_, i⟩, stop, rfl⟩ := Option.map_eq_some_iff.mp (of_decide_eq_true (List.mem_filter.mp member).2)
    exact ⟨i, stop⟩
  refine ⟨c.timeout, stopStory past k, panics c.stops, finalizer, told,
    ⟨begun, member, acquired, account.frames⟩, ⟨stops, fun i bound => ?_⟩, ?_,
    ⟨recorded.ungraceful, fun i id => ungraceful_mem_iff.trans run.returned_iff⟩,
    ⟨panics_sorted, fun i message => mem_panics.trans (recorded.panicked i message)⟩,
    fun outcome => (finalizerEnded_mem_iff (finalizer_of_course course)).symm.trans run.finalizerEnded_iff⟩
  · -- The account of a frame ends with its return or its panic, and the stops of all frames hold that too.
    rw [account.frames] at bound
    obtain ⟨ending, history, kind⟩ := account.stops i _ (List.getElem?_eq_getElem bound)
    have listed : ending ∈ stopTrace past k i := by simp [history]
    obtain ⟨member, stop⟩ := List.mem_filter.mp listed
    refine ⟨ending, List.mem_filter.mpr ⟨member, ?_⟩, ?_⟩
    · rw [of_decide_eq_true stop]
      simp
    · rcases kind with rfl | ⟨graceful, rfl⟩ <;> rfl
  · have quiet := filterMap_record?_stops fun h member => by
      obtain ⟨i, stop⟩ := stops h member
      rw [stop]
      rfl
    rw [told]
    simp only [List.filterMap_append, List.filterMap_cons, quiet, filterMap_record?_failed, filterMap_record?_finalizer,
      Happening.record?, List.cons_append]
    rfl

end FrameHost.Shutdown
