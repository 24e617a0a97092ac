import FrameHost.Proofs.Past
import FrameHost.Proofs.Host.Run
import FrameHost.Proofs.Shutdown.Verdict

/-! Which frames are running once a shutdown has reported success.

A sequence looks at each of its frames once. Nothing keeps a start from taking effect after that look,
so a report of success speaks of the instants at which the frames returned. What is running later was
made running later, or was registered after the sequence had begun. -/

set_option autoImplicit false

namespace FrameHost.Host

/-- Whether the frames honour their contract at a moment. A frame becomes running only by a run of its
own that has begun, and one that says it has stopped is not running. -/
def Moment.honours (m : Moment) : Bool :=
  match m.event with
  | .flag i true => m.before.starts.runs.any fun run => run.frame = i ∧ run.phase = .begun
  | .shutdown _ (.finish _ i true) => !m.before.isRunningAt i
  | _ => true

/-- A frame was made running at a moment of a run and has not ceased since. -/
structure MadeRunning (i : Nat) (past before : List Moment) (m : Moment) (after : List Moment) : Prop where
  split : past = before ++ m :: after
  event : m.event = .flag i true
  registered : i < m.before.registry.size
  since : ∀ later ∈ after, later.event ≠ .flag i false

section
variable {h h' : Host} {e : Event} {happenings : List Happening} {i : Nat}

theorem isRunningAt_set {frame : Nat} {running : Bool} :
    ({ h with running := h.running.set frame running } : Host).isRunningAt i =
      if frame = i ∧ i < h.running.length then running else h.isRunningAt i := by
  simp only [isRunningAt, List.getD_eq_getElem?_getD, List.getElem?_set]
  by_cases same : frame = i
  · subst same
    by_cases bound : frame < h.running.length
    · simp [bound]
    · simp [bound]
  · simp [same]

theorem Parts.running_cases (parts : Parts h e h' happenings) (i : Nat) :
    (∃ running, e = .flag i running ∧ i < h.running.length ∧ h'.isRunningAt i = running) ∨
    ((∀ running, e = .flag i running → h.running.length ≤ i) ∧ h'.isRunningAt i = h.isRunningAt i) := by
  cases parts with
  | @flag frame running =>
    rw [isRunningAt_set]
    by_cases changed : frame = i ∧ i < h.running.length
    · obtain ⟨rfl, bound⟩ := changed
      exact .inl ⟨running, rfl, bound, if_pos ⟨rfl, bound⟩⟩
    · refine .inr ⟨fun running same => ?_, if_neg changed⟩
      cases same
      exact Nat.le_of_not_lt fun bound => changed ⟨rfl, bound⟩
  | registration =>
    -- New frames are not running, like those beyond the end of the list.
    refine .inr ⟨nofun, ?_⟩
    simp only [isRunningAt, List.getD_eq_getElem?_getD]
    rw [List.getElem?_append]
    split
    · rfl
    · rename_i outside
      rw [List.getElem?_eq_none (Nat.le_of_not_lt outside), List.getElem?_replicate]
      split <;> rfl
  | arm event =>
    refine .inr ⟨?_, rfl⟩
    rcases event with rfl | ⟨p, rfl, -⟩ <;> nofun
  | _ => exact .inr ⟨nofun, rfl⟩

theorem Parts.length_running (parts : Parts h e h' happenings)
    (kept : h.running.length = h.registry.size) : h'.running.length = h'.registry.size := by
  have grown := parts.grown.frames.length_le
  cases parts with
  | @registration e registrar _ moved =>
    change (h.running ++ List.replicate (registrar.registry.size - h.running.length) false).length =
      registrar.registry.size
    change h.registry.size ≤ registrar.registry.size at grown
    rw [List.length_append, List.length_replicate]
    omega
  | flag => exact (List.length_set ..).trans kept
  | _ => exact kept

end

section
variable {start h : Host} {past : List Moment} {i : Nat} {clock : Clock}
  {startInterval shutdownTimeout : Duration}

theorem Run.before (run : Run start past h) {before after : List Moment} {m : Moment}
    (split : past = before ++ m :: after) : Run start before m.before := by
  induction run generalizing after with
  | start => simp at split
  | step run stepped ih =>
    rcases split_concat split with ⟨rfl, rfl, rfl⟩ | ⟨rest, -, same⟩
    · exact run
    · exact ih same

theorem Run.length_running (run : Run (newAt clock startInterval shutdownTimeout) past h) :
    h.running.length = h.registry.size := by
  induction run with
  | start => rfl
  | step run stepped ih =>
    obtain ⟨parts, metrics, moved, rfl⟩ := Parts.of_step stepped
    exact moved.length_running ih

/-- A frame is running exactly if it was made running and has not ceased since. -/
theorem Run.running_iff (run : Run (newAt clock startInterval shutdownTimeout) past h) :
    h.isRunningAt i = true ↔ ∃ before m after, MadeRunning i past before m after := by
  induction run with
  | start =>
    constructor
    · intro running
      simp [newAt, new, isRunningAt] at running
    · rintro ⟨before, m, after, made⟩
      simpa using made.split
  | @step past h h' e happenings run stepped ih =>
    obtain ⟨parts, metrics, moved, rfl⟩ := Parts.of_step stepped
    have sized := run.length_running
    -- The last event sets the flag of this frame, or leaves it as it was.
    rcases moved.running_cases i with ⟨running, rfl, bound, now⟩ | ⟨outside, same⟩
    · change parts.isRunningAt i = true ↔ _
      rw [now]
      constructor
      · rintro rfl
        exact ⟨past, _, [], rfl, rfl, sized ▸ bound, fun _ member => (List.not_mem_nil member).elim⟩
      · rintro ⟨before, m, after, made⟩
        cases running with
        | true => rfl
        | false =>
          rcases split_concat made.split with ⟨-, rfl, -⟩ | ⟨rest, rfl, -⟩
          · cases made.event
          · exact (made.since _ (List.mem_append_right _ (List.mem_singleton.mpr rfl)) rfl).elim
    · change parts.isRunningAt i = true ↔ _
      rw [same, ih]
      constructor
      · rintro ⟨before, m, after, made⟩
        refine ⟨before, m, after ++ [⟨h, e, happenings⟩], by rw [made.split]; simp, made.event,
          made.registered, ?_⟩
        intro later member ceased
        rcases List.mem_append.mp member with old | last
        · exact made.since later old ceased
        · -- A flag without effect is that of a frame not registered yet, but this one was.
          cases List.mem_singleton.mp last
          have unregistered := outside false ceased
          have grown := (run.grown m (made.split ▸ List.mem_append_cons_self)).frames.length_le
          have bound := made.registered
          change m.before.registry.size ≤ h.registry.size at grown
          omega
      · rintro ⟨before, m, after, made⟩
        rcases split_concat made.split with ⟨-, rfl, -⟩ | ⟨rest, rfl, same⟩
        · have unregistered := outside true made.event
          have bound := made.registered
          change i < h.registry.size at bound
          omega
        · exact ⟨before, m, rest, same, made.event, made.registered,
            fun later member => made.since later (List.mem_append_left _ member)⟩

end

/-- Two frames, a pass that still pauses when the shutdown begins, and its second start after that. -/
def startDuringShutdown : List Event :=
  [.registration (.attempt (.ofName "a")), .registration (.attempt (.ofName "b")), .startup .call,
    .startup (.turn 0), .startup (.beginRun 0), .flag 0 true, .advance 10, .shutdown 0 (.request none),
    .shutdown 0 (.acquire 0), .shutdown 0 (.invoke 0 0), .shutdown 0 (.invoke 0 1),
    .shutdown 0 (.finish 0 1 true), .advance 50, .startup (.turn 0), .startup (.beginRun 1),
    .flag 1 true, .advance 110, .flag 0 false, .startup (.endRun 0), .shutdown 0 (.finish 0 0 true),
    .shutdown 0 (.passBarrier 0), .shutdown 0 (.close 0), .shutdown 0 (.close 0),
    .shutdown 0 (.close 0), .shutdown 0 (.close 0), .shutdown 0 (.close 0), .shutdown 0 (.close 0)]

theorem startDuringShutdown_ran :
    ∃ past h s call, (newAt .fresh ⟨50⟩ ⟨60000⟩).run? startDuringShutdown = some (past, h) ∧
      (∀ m ∈ past, m.honours = true) ∧ h.controllers[0]? = some s ∧ s.call? 0 = some call ∧
      call.phase = .ended { graceful := true, frames := 2, deadline := 60010 } ∧
      h.registry.size = 2 ∧ h.isRunningAt 1 = true := by
  obtain ⟨⟨past, h⟩, ran⟩ :
      ∃ result, (newAt .fresh ⟨50⟩ ⟨60000⟩).run? startDuringShutdown = some result := ⟨_, rfl⟩
  have honoured : ((newAt .fresh ⟨50⟩ ⟨60000⟩).run? startDuringShutdown).map (·.1.all Moment.honours) =
      some true := by decide
  have phase : (((newAt .fresh ⟨50⟩ ⟨60000⟩).run? startDuringShutdown).bind fun result =>
      (result.2.controllers[0]?.bind (·.call? 0)).map (·.phase)) =
        some (.ended { graceful := true, frames := 2, deadline := 60010 }) := by decide
  have size : ((newAt .fresh ⟨50⟩ ⟨60000⟩).run? startDuringShutdown).map (·.2.registry.size) =
      some 2 := by decide
  have running : ((newAt .fresh ⟨50⟩ ⟨60000⟩).run? startDuringShutdown).map (·.2.isRunningAt 1) =
      some true := by decide
  rw [ran] at honoured phase size running
  obtain ⟨call, found, ended⟩ := Option.map_eq_some_iff.mp phase
  obtain ⟨s, controller, called⟩ := Option.bind_eq_some_iff.mp found
  exact ⟨past, h, s, call, ran, List.all_eq_true.mp (Option.some.inj honoured), controller, called,
    ended, Option.some.inj size, Option.some.inj running⟩

/-- That all frames honour their contract is not enough for all to have stopped at the instant at which
the host's shutdown returns a report of success. -/
theorem success_leaves_a_frame_running :
    ¬∀ (clock : Clock) (startInterval shutdownTimeout : Duration) (past : List Moment) (h : Host)
      (k i : Nat) (s : Shutdown.Controller) (call : Shutdown.Call) (report : Shutdown.Report),
      Run (newAt clock startInterval shutdownTimeout) past h → (∀ m ∈ past, m.honours = true) →
      (∃ m, past.getLast? = some m ∧ m.event = .shutdown 0 (.close k)) →
      h.controllers[0]? = some s → s.call? k = some call → call.phase = .ended report →
      report.graceful = true → i < h.registry.size → h.isRunningAt i = false := by
  intro allStopped
  obtain ⟨past, h, s, call, ran, honoured, found, called, ended, size, running⟩ :=
    startDuringShutdown_ran
  have returns : ∃ m, past.getLast? = some m ∧ m.event = .shutdown 0 (.close 0) := by
    have last : (past.map Moment.event).getLast? = some (.shutdown 0 (.close 0)) := by
      rw [events_of_run? ran]
      rfl
    rw [List.getLast?_map] at last
    exact Option.map_eq_some_iff.mp last
  have stopped := allStopped .fresh ⟨50⟩ ⟨60000⟩ past h 0 1 s call _ (by simpa using Run.start.of_run? ran)
    honoured returns found called ended rfl (by omega)
  exact Bool.false_ne_true (stopped.symm.trans running)

theorem MadeRunning.returned {clock : Clock} {startInterval shutdownTimeout : Duration}
    {past before after : List Moment} {m stop : Moment} {h : Host} {c k i : Nat}
    (made : MadeRunning i past before m after)
    (run : Run (newAt clock startInterval shutdownTimeout) past h)
    (honoured : ∀ m ∈ past, m.honours = true) (inPast : stop ∈ past)
    (returned : stop.event = .shutdown c (.finish k i true)) : stop ∈ before := by
  rw [made.split] at inPast
  rcases List.mem_append.mp inPast with earlier | rest
  · exact earlier
  · rcases List.mem_cons.mp rest with rfl | later
    · cases made.event.symm.trans returned
    · -- Had it returned later, it would have returned while running.
      obtain ⟨first, last, between⟩ := List.append_of_mem later
      have whole : past = (before ++ m :: first) ++ stop :: last := by
        rw [made.split, between]
        simp
      have idle : stop.before.isRunningAt i = false := by
        have honours := honoured stop (whole ▸ List.mem_append_cons_self)
        simpa [Moment.honours, returned] using honours
      have busy : stop.before.isRunningAt i = true := by
        refine (run.before whole).running_iff.mpr
          ⟨before, m, first, rfl, made.event, made.registered, fun other inFirst => ?_⟩
        refine made.since other ?_
        rw [between]
        exact List.mem_append_left _ inFirst
      exact (Bool.false_ne_true (idle.symm.trans busy)).elim

theorem returned_of_success {clock : Clock} {startInterval shutdownTimeout : Duration}
    {past : List Moment} {h : Host} (run : Run (newAt clock startInterval shutdownTimeout) past h)
    {c k i : Nat} {s : Shutdown.Controller} {call : Shutdown.Call} {report : Shutdown.Report}
    (found : h.controllers[c]? = some s) (called : s.call? k = some call)
    (ended : call.phase = .ended report) (graceful : report.graceful = true) (bound : i < report.frames) :
    ∃ stop ∈ past, stop.event = .shutdown c (.finish k i true) := by
  obtain ⟨_, run'⟩ := run.controller found
  obtain ⟨_, _, begun, _, account⟩ := run'.account rfl called ended
  rw [account.frames] at bound
  have registered : begun.registry.frames[i]? = some begun.registry.frames[i] :=
    List.getElem?_eq_getElem bound
  obtain ⟨m, inMoments, event, -⟩ := run'.returned_iff.mp ((account.graceful.mp graceful).1 i _ registered)
  obtain ⟨stop, inPast, asks, -⟩ := mem_moments inMoments
  refine ⟨stop, inPast, ?_⟩
  rcases Event.of_asks? asks with direct | ⟨-, request⟩
  · rw [direct, event]
  · cases event.symm.trans request

/-- After a report of success a frame is running exactly if a run of it made it running and it has not
ceased since, and that was not before it returned to the sequence, if it was one of its frames. -/
theorem running_after_success_iff {clock : Clock} {startInterval shutdownTimeout : Duration}
    {past : List Moment} {h : Host} (run : Run (newAt clock startInterval shutdownTimeout) past h)
    (honoured : ∀ m ∈ past, m.honours = true) {c k i : Nat} {s : Shutdown.Controller}
    {call : Shutdown.Call} {report : Shutdown.Report} (found : h.controllers[c]? = some s)
    (called : s.call? k = some call) (ended : call.phase = .ended report)
    (graceful : report.graceful = true) :
    h.isRunningAt i = true ↔
      ∃ before m after, MadeRunning i past before m after ∧
        (∃ run ∈ m.before.starts.runs, run.frame = i ∧ run.phase = .begun) ∧
        (i < report.frames → ∃ stop ∈ before, stop.event = .shutdown c (.finish k i true)) := by
  rw [run.running_iff]
  constructor
  · rintro ⟨before, m, after, made⟩
    refine ⟨before, m, after, made, ?_, fun bound => ?_⟩
    · have honours := honoured m (made.split ▸ List.mem_append_cons_self)
      simpa [Moment.honours, made.event] using honours
    · obtain ⟨stop, inPast, returned⟩ := returned_of_success run found called ended graceful bound
      exact ⟨stop, made.returned run honoured inPast returned, returned⟩
  · rintro ⟨before, m, after, made, -⟩
    exact ⟨before, m, after, made⟩

theorem running_after_success_iff_startDuringShutdown :
    ∃ past h s call, (newAt .fresh ⟨50⟩ ⟨60000⟩).run? startDuringShutdown = some (past, h) ∧
      (∀ m ∈ past, m.honours = true) ∧ h.controllers[0]? = some s ∧ s.call? 0 = some call ∧
      call.phase = .ended { graceful := true, frames := 2, deadline := 60010 } ∧
      h.isRunningAt 1 = true ∧ ∃ before m after, MadeRunning 1 past before m after ∧
        (∃ run ∈ m.before.starts.runs, run.frame = 1 ∧ run.phase = .begun) ∧
        ∃ stop ∈ before, stop.event = .shutdown 0 (.finish 0 1 true) := by
  obtain ⟨past, h, s, call, ran, honoured, found, called, ended, -, running⟩ :=
    startDuringShutdown_ran
  obtain ⟨before, m, after, made, begun, returned⟩ :=
    (running_after_success_iff (by simpa using Run.start.of_run? ran) honoured found called ended
      rfl).mp running
  exact ⟨past, h, s, call, ran, honoured, found, called, ended, running, before, m, after, made, begun,
    returned (by decide)⟩

end FrameHost.Host
