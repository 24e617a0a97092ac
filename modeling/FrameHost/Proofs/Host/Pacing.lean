import FrameHost.Proofs.Host.Starting
import FrameHost.Proofs.Host.Timing
import FrameHost.Proofs.Host.Trapping
import FrameHost.Proofs.Startup.Pacing

/-! The turns of a pass on a host, among all that happens there meanwhile.

A run of the host keeps pace with a pass if the clock never advances past a turn that is due. Then the
list that the pass took when it was called settles which frames have a turn, and what each of them says at
its turn settles when the turns that follow come. The trap is armed for the pass after its last pause. -/

set_option autoImplicit false

namespace FrameHost.Host
open Startup (Look Pass Pacing OnPace dispatches)

/-- The looks of a pass at the frames of a host. -/
def looks (p : Nat) (past : List Moment) : List Look :=
  past.flatMap fun m => (m.happenings.filterMap Happening.startup?).filterMap
    (Startup.Happening.look? m.before.isRunningAt m.before.clock.now p)

def Event.callsPass : Event → Bool
  | .startup .call => true
  | _ => false

def passCalls (past : List Moment) : List Moment := past.filter fun m => m.event.callsPass

/-- When a pass returned, and what it answered. -/
def returns (p : Nat) (past : List Moment) : List (Nat × Nat) :=
  past.flatMap fun m => (m.happenings.filterMap Happening.startup?).filterMap
    (Startup.Happening.return? m.before.clock.now p)

/-- The clock advances only as far as a pass waits. -/
def Moment.keepsPace (p : Nat) (m : Moment) : Prop :=
  ∀ now ∈ m.event.advance?, m.before.clock.now < now → ∀ pass ∈ m.before.starts.passes[p]?, pass.Waits now

instance (p : Nat) (m : Moment) : Decidable (m.keepsPace p) :=
  inferInstanceAs (Decidable (∀ now ∈ m.event.advance?, _))

/-- What a pass does by itself, and the pauses in it. -/
def Moment.ofPass (p : Nat) (m : Moment) : Prop :=
  (m.event = .startup (.turn p) ∨ ∃ now, m.event = .advance now) ∧ m.keepsPace p

/-- Turns of a pass can bring it to its return, with no more than pauses between them. -/
def CanReturn (start : Host) (past : List Moment) (p : Nat) : Prop :=
  ∃ more last pass, Run start (past ++ more) last ∧
    (∀ m ∈ more, m.ofPass p) ∧
    last.starts.passes[p]? = some pass ∧ pass.stage = .returned

/-- What has come of a call for a pass. -/
structure Paced (start : Host) (past : List Moment) (h : Host) (p : Nat) (call : Moment) (pass : Pass) :
    Prop where
  /-- The pass goes by the frames that were registered when it was called. -/
  pacing : Pacing call.before.clock.now call.before.registry.size start.startInterval (looks p past)
    (returns p past) pass
  /-- It dispatches the frames that it starts, and no others. -/
  dispatched : ∀ r i id, .dispatched p r i id ∈ startTrace past ↔
    call.before.registry.frames[i]? = some id ∧ ∃ look ∈ looks p past, look.start = some r ∧ look.frame = i
  /-- Each start is a run of the frame that is dispatched this once. -/
  spawned : ∀ r i id, .dispatched p r i id ∈ startTrace past → ∃ run, h.starts.runs[r]? = some run ∧
    run.frame = i ∧ Startup.course (startTrace past) r = .dispatched p r i id :: run.history r
  /-- There is no run that no pass has started. -/
  sole : ∀ r run, h.starts.runs[r]? = some run →
    ∃ q, ∃ look ∈ looks q past, look.start = some r ∧ look.frame = run.frame
  untrapped : ∀ m ∈ past, ∀ asked, m.event = .startup asked → ∀ t, .trap t ∉ m.happenings
  /-- When the trap is armed for the pass, all its turns and all its pauses are over. -/
  armed : ∀ before m after, past = before ++ m :: after → m.event = .armAfter p →
    (looks p before).map Look.frame = List.range call.before.registry.size ∧
    ∃ time, returns p before = [(time, dispatches (looks p before))] ∧
      time = call.before.clock.now + dispatches (looks p before) * start.startInterval.millis ∧
      time ≤ m.before.clock.now
  /-- Arming the trap for the pass leaves it armed: for the host's own controller, unless it is armed already. -/
  trapped : ∀ before m after, past = before ++ m :: after → m.event = .armAfter p →
    (m.happenings = if arms before = [] then [.trap .built, .trap (.armed 0)] else [.trap .refused]) ∧
    h.trap.armed = true
  canReturn : CanReturn start past p
  /-- Once the pass has returned, the trap can be armed for it, and then it is armed. -/
  canArm : pass.stage = .returned →
    ∃ h' happenings, h.step (.armAfter p) = some (h', happenings) ∧ h'.trap.armed = true

section
variable {h h' : Host} {e : Event} {happenings : List Happening} {past : List Moment} {p : Nat} {pass : Pass}

theorem looks_concat (m : Moment) : looks p (past ++ [m]) = looks p past ++
    (m.happenings.filterMap Happening.startup?).filterMap
      (Startup.Happening.look? m.before.isRunningAt m.before.clock.now p) := by
  simp [looks]

theorem returns_concat (m : Moment) : returns p (past ++ [m]) = returns p past ++
    (m.happenings.filterMap Happening.startup?).filterMap (Startup.Happening.return? m.before.clock.now p) := by
  simp [returns]

theorem getElem?_passCalls_append {call : Moment} {more : List Moment}
    (called : (passCalls past)[p]? = some call) : (passCalls (past ++ more))[p]? = some call := by
  have bound := (List.getElem?_eq_some_iff.mp called).1
  rw [passCalls, List.filter_append, ← passCalls, List.getElem?_append_left bound, called]

theorem exists_dispatched_iff {r i : Nat} : (∃ id, .dispatched p r i id ∈ startTrace past) ↔
    ∃ look ∈ looks p past, look.start = some r ∧ look.frame = i := by
  have spread : startTrace past = past.flatMap fun m => m.happenings.filterMap Happening.startup? := by
    simp [startTrace, List.filterMap_flatMap]
  simp only [spread, looks, List.mem_flatMap]
  constructor
  · rintro ⟨id, m, member, dispatched⟩
    obtain ⟨look, looked, given⟩ := Startup.exists_dispatched_iff.mp ⟨id, dispatched⟩
    exact ⟨look, ⟨m, member, looked⟩, given⟩
  · rintro ⟨look, ⟨m, member, looked⟩, given⟩
    obtain ⟨id, dispatched⟩ := Startup.exists_dispatched_iff.mpr ⟨look, looked, given⟩
    exact ⟨id, m, member, dispatched⟩

theorem Parts.startInterval (parts : Parts h e h' happenings) : h'.startInterval = h.startInterval := by
  cases parts <;> rfl

theorem returned_of_armAfter (stepped : h.step (.armAfter p) = some (h', happenings)) :
    ∃ pass, h.starts.passes[p]? = some pass ∧ pass.stage = .returned := by
  obtain ⟨parts, parted, -⟩ := Option.bind_eq_some_iff.mp stepped
  obtain ⟨pass, found, armed⟩ := Option.bind_eq_some_iff.mp parted
  split at armed
  · rename_i returned
    exact ⟨pass, found, returned⟩
  · cases armed

theorem armed_of_returned (found : h.starts.passes[p]? = some pass) (returned : pass.stage = .returned) :
    ∃ h' happenings, h.step (.armAfter p) = some (h', happenings) ∧ h'.trap.armed = true := by
  cases armed : h.trap.armed <;> simp [step, stepParts, stepTrap, Trap.step, found, returned, armed]

theorem Parts.untrapped {asked : Startup.Event} (parts : Parts h (.startup asked) h' happenings)
    (t : Trap.Happening) : .trap t ∉ happenings := by
  cases parts with
  | startup => simp
  | arm event =>
    rcases event with same | ⟨q, same, -⟩ <;> cases same

theorem step_startup {asked : Startup.Event} {starts : Startup.Starts} {happenings : List Startup.Happening}
    (stepped : h.starts.step h.registry h.isRunningAt h.startInterval h.clock.now asked =
      some (starts, happenings)) :
    ∃ metrics, h.step (.startup asked) =
      some ({ h with starts, metrics }, happenings.map .startup) := by
  simp [step, stepParts, stepped]

theorem step_advance {now : Nat} (later : h.clock.now ≤ now) :
    h.step (.advance now) = some ({ h with clock := { h.clock with now } }, []) := by
  simp [step, stepParts, later]

end

section
variable {clock : Clock} {startInterval shutdownTimeout : Duration} {past : List Moment} {h h' : Host}
  {happenings : List Happening} {p : Nat} {pass : Pass}

theorem Run.keeps_interval (run : Run (newAt clock startInterval shutdownTimeout) past h) :
    h.startInterval = startInterval := by
  induction run with
  | start => rfl
  | step run stepped ih =>
    obtain ⟨parts, metrics, moved, rfl⟩ := Parts.of_step stepped
    exact moved.startInterval.trans ih

theorem Run.looks_absent (run : Run (newAt clock startInterval shutdownTimeout) past h)
    (absent : h.starts.passes.length ≤ p) : looks p past = [] ∧ returns p past = [] := by
  induction run with
  | start => exact ⟨rfl, rfl⟩
  | step run stepped ih =>
    obtain ⟨parts, metrics, moved, rfl⟩ := Parts.of_step stepped
    rw [looks_concat, returns_concat]
    rcases moved.starts_cases with ⟨asked, -, step⟩ | ⟨-, same, silent⟩
    · obtain ⟨before, looked, returned⟩ := step.absent absent
      rw [looked, returned, List.append_nil, List.append_nil]
      exact ih before
    · simp only [silent, List.filterMap_nil, List.append_nil]
      exact ih (same ▸ absent)

theorem Run.length_passes (run : Run (newAt clock startInterval shutdownTimeout) past h) :
    h.starts.passes.length = (passCalls past).length := by
  induction run with
  | start => rfl
  | @step past h h' e happenings run stepped ih =>
    obtain ⟨parts, metrics, moved, rfl⟩ := Parts.of_step stepped
    rw [passCalls, List.filter_append, List.length_append, ← passCalls, ← ih]
    rcases moved.starts_cases with ⟨asked, rfl, step⟩ | ⟨other, same, -⟩
    · rw [step.length_passes]
      cases asked <;> rfl
    · have uncalled : e.callsPass = false := by
        cases e with
        | startup asked => exact (other asked rfl).elim
        | _ => rfl
      simp [uncalled, same]

/-- A pass keeps pace from its call on. -/
theorem Run.onPace (run : Run (newAt clock startInterval shutdownTimeout) past h)
    (prompt : ∀ m ∈ past, m.keepsPace p) (found : h.starts.passes[p]? = some pass) :
    ∃ call, (passCalls past)[p]? = some call ∧
      OnPace call.before.clock.now call.before.registry.size startInterval (looks p past) (returns p past) pass
        h.clock.now h.starts.runs.length := by
  induction run generalizing pass with
  | start => simp [newAt, new] at found
  | @step past h h' e happenings run stepped ih =>
    obtain ⟨parts, metrics, moved, rfl⟩ := Parts.of_step stepped
    have ih {pass : Pass} (found : h.starts.passes[p]? = some pass) :=
      ih (fun m member => prompt m (List.mem_append_left _ member)) found
    have last := prompt ⟨h, e, happenings⟩ (by simp)
    rw [looks_concat, returns_concat]
    -- Only its turns and the clock bear on the pass. Its turns keep the clock, which may advance only while
    -- the pass waits.
    rcases moved.starts_cases with ⟨asked, rfl, step⟩ | ⟨other, same, silent⟩
    · have now : parts.clock = h.clock := by
        rcases moved.clock_cases with same | ⟨_, advanced, -⟩
        · exact same
        · cases advanced
      simp only [now]
      rcases step.pass_cases found with ⟨before, looked, returned⟩ | ⟨rfl, new, rfl, silent⟩ |
          ⟨before, found', due, turn⟩
      · obtain ⟨call, called, paced⟩ := ih before
        refine ⟨call, getElem?_passCalls_append called, ?_⟩
        simp only [looked, returned, List.append_nil]
        exact paced.more_runs step.length_runs_le
      · -- The pass was not there before this call, so it has done nothing yet.
        obtain ⟨unlooked, unreturned⟩ := run.looks_absent (Nat.le_of_eq new.symm)
        refine ⟨⟨h, .startup .call, happenings⟩, ?_, ?_⟩
        · rw [passCalls, List.filter_append, ← passCalls, new, run.length_passes,
            List.getElem?_append_right (Nat.le_refl _), Nat.sub_self]
          rfl
        · simp only [silent, unlooked, unreturned, List.filterMap_nil, List.append_nil]
          exact .new _ _ _ _
      · obtain ⟨call, called, paced⟩ := ih found'
        rw [run.keeps_interval] at turn
        exact ⟨call, getElem?_passCalls_append called, paced.turn due turn step.length_runs_le
          fun look member r started => step.look_start member started⟩
    · rw [same] at found
      obtain ⟨call, called, paced⟩ := ih found
      refine ⟨call, getElem?_passCalls_append called, ?_⟩
      simp only [silent, List.filterMap_nil, List.append_nil, same]
      rcases moved.clock_cases with still | ⟨now, rfl, later, shows⟩
      · rwa [still]
      · rw [shows]
        rcases Nat.lt_or_eq_of_le later with passed | still
        · exact paced.wait (last now rfl passed pass found)
        · rwa [← still]

theorem Run.canWake {start : Host} (run : Run start past h) (found : h.starts.passes[p]? = some pass)
    (going : pass.stage ≠ .returned) : ∃ more h', Run start (past ++ more) h' ∧ (∀ m ∈ more, m.ofPass p) ∧
      h'.starts = h.starts ∧ h'.registry = h.registry ∧ pass.Due h'.clock.now := by
  cases stage : pass.stage with
  | returned => exact (going stage).elim
  | looking => exact ⟨[], h, by simpa using run, List.forall_mem_nil _, rfl, rfl, .looking stage⟩
  | pausing wake =>
    rcases Nat.le_total wake h.clock.now with elapsed | ahead
    · exact ⟨[], h, by simpa using run, List.forall_mem_nil _, rfl, rfl, .woken stage elapsed⟩
    · refine ⟨_, _, run.step (step_advance ahead), ?_, rfl, rfl, .woken stage (Nat.le_refl wake)⟩
      refine List.forall_mem_singleton.mpr ⟨.inr ⟨wake, rfl⟩, fun now advanced _ pass' here => ?_⟩
      cases advanced
      cases found.symm.trans here
      simp [Pass.Waits, stage]

theorem Run.canReturn {start : Host} (run : Run start past h) (found : h.starts.passes[p]? = some pass)
    (registered : ∀ i ∈ pass.remaining, i < h.registry.size) : CanReturn start past p := by
  -- Every turn leaves a frame less to look at.
  induction left : pass.remaining.length using Nat.strongRecOn generalizing past h pass with
  | _ n ih =>
    subst left
    by_cases going : pass.stage = .returned
    · exact ⟨[], h, pass, by simpa using run, List.forall_mem_nil _, found, going⟩
    · obtain ⟨pause, h', run, paused, starts, registry, due⟩ := run.canWake found going
      rw [← registry] at registered
      obtain ⟨starts', turned, pass', stepped, found', next⟩ :=
        Startup.Starts.exists_turn h'.isRunningAt h'.startInterval (starts ▸ found) due registered
      obtain ⟨metrics, stepped⟩ := step_startup stepped
      have turn : ∀ m ∈ pause ++ [⟨h', .startup (.turn p), turned.map .startup⟩], m.ofPass p :=
        List.forall_mem_append.mpr ⟨paused, List.forall_mem_singleton.mpr ⟨.inl rfl, nofun⟩⟩
      rcases next with returned | ⟨i, more⟩
      · exact ⟨_, _, pass', by simpa using run.step stepped, turn, found', returned⟩
      · obtain ⟨rest, last, final, run, kept, there, returned⟩ := ih pass'.remaining.length (by simp [more])
          (run.step stepped) found' (fun j member => registered j (more ▸ List.mem_cons_of_mem i member)) rfl
        exact ⟨_ ++ rest, last, final, by simpa using run, List.forall_mem_append.mpr ⟨turn, kept⟩, there, returned⟩

theorem Run.registered_of_dispatched (run : Run (newAt clock startInterval shutdownTimeout) past h) {r i : Nat}
    {id : FrameId} (dispatched : .dispatched p r i id ∈ startTrace past) : h.registry.frames[i]? = some id := by
  obtain ⟨m, member, now⟩ := List.mem_flatMap.mp (mem_startup?_iff.mp dispatched)
  obtain ⟨next, moved⟩ := run.moment member
  rcases moved.starts_cases with ⟨asked, -, step⟩ | ⟨-, -, silent⟩
  · have here := step.registered (mem_startup?_iff.mpr now)
    exact (run.grown m member).registered here
  · have none := mem_startup?_iff.mpr now
    rw [silent] at none
    cases none

theorem Run.time_of_returns (run : Run (newAt clock startInterval shutdownTimeout) past h)
    {answer : Nat × Nat} (returned : answer ∈ returns p past) : answer.1 ≤ h.clock.now := by
  obtain ⟨m, member, now⟩ := List.mem_flatMap.mp returned
  obtain ⟨happening, -, same⟩ := List.mem_filterMap.mp now
  have current : answer.1 = m.before.clock.now := by
    cases happening with
    | returned q n =>
      simp only [Startup.Happening.return?] at same
      split at same <;> cases same
      rfl
    | _ => cases same
  rw [current]
  exact (run.grown m member).clock

theorem Run.dispatched_iff (run : Run (newAt clock startInterval shutdownTimeout) past h) {before : Host}
    (grown : Grown before h) (listed : ∀ look ∈ looks p past, look.frame < before.registry.size) {r i : Nat}
    {id : FrameId} : .dispatched p r i id ∈ startTrace past ↔
      before.registry.frames[i]? = some id ∧ ∃ look ∈ looks p past, look.start = some r ∧ look.frame = i := by
  constructor
  · intro dispatched
    obtain ⟨look, looked, started, rfl⟩ := exists_dispatched_iff.mp ⟨id, dispatched⟩
    have here := List.getElem?_eq_getElem (listed look looked)
    -- A frame keeps its place, so the one that was dispatched was there from the beginning.
    cases (grown.registered here).symm.trans (run.registered_of_dispatched dispatched)
    exact ⟨here, look, looked, started, rfl⟩
  · rintro ⟨here, given⟩
    obtain ⟨id', dispatched⟩ := exists_dispatched_iff.mpr given
    cases (grown.registered here).symm.trans (run.registered_of_dispatched dispatched)
    exact dispatched

theorem Run.through (run : Run (newAt clock startInterval shutdownTimeout) past h)
    (prompt : ∀ m ∈ past, m.keepsPace p) (stepped : h.step (.armAfter p) = some (h', happenings)) :
    ∃ call, (passCalls past)[p]? = some call ∧
      (looks p past).map Look.frame = List.range call.before.registry.size ∧
      ∃ time, returns p past = [(time, dispatches (looks p past))] ∧
        time = call.before.clock.now + dispatches (looks p past) * startInterval.millis ∧
        time ≤ h.clock.now := by
  obtain ⟨pass, found, ended⟩ := returned_of_armAfter stepped
  obtain ⟨call, called, paced⟩ := run.onPace prompt found
  have returned := paced.returns
  rw [if_pos ended] at returned
  refine ⟨call, called, ?_, _, returned, rfl, run.time_of_returns (returned ▸ List.mem_singleton.mpr rfl)⟩
  rw [← paced.order, paced.through ended, List.append_nil]

/-- A pass that is called has its turns at its own times, however frames and registry change meanwhile. If
the clock never advances past a turn that is due, it starts as many frames as are not running at their turns,
with a pause after each, and can always be brought to its return. -/
theorem starts_paced (run : Run (newAt clock startInterval shutdownTimeout) past h) {call : Moment}
    (called : (passCalls past)[p]? = some call) (prompt : ∀ m ∈ past, m.keepsPace p) :
    ∃ pass, h.starts.passes[p]? = some pass ∧
      Paced (newAt clock startInterval shutdownTimeout) past h p call pass := by
  have bound : p < h.starts.passes.length := run.length_passes ▸ (List.getElem?_eq_some_iff.mp called).1
  have found := List.getElem?_eq_getElem bound
  obtain ⟨call', called', paced⟩ := run.onPace prompt found
  cases called.symm.trans called'
  have grown := run.grown call (List.mem_filter.mp (List.mem_of_getElem? called)).1
  have listed {i : Nat} (member : i ∈ (looks p past).map Look.frame ++ h.starts.passes[p].remaining) :
      i < call.before.registry.size := by
    rw [paced.order] at member
    exact List.mem_range.mp member
  have looked := fun look member => listed (List.mem_append_left _ (List.mem_map_of_mem (a := look) member))
  refine ⟨_, found, paced.toPacing, fun r i id => run.dispatched_iff grown looked,
    fun r i id dispatched => run.traced.of_dispatched dispatched,
    fun r task here => ?_, fun m member asked event => ?_, fun before m after split event => ?_,
    fun before m after split event => ?_, ?_, armed_of_returned found⟩
  · obtain ⟨q, id, course⟩ := run.traced.known r task here
    have dispatched : .dispatched q r task.frame id ∈ Startup.course (startTrace past) r := by simp [course]
    exact ⟨q, exists_dispatched_iff.mp ⟨id, (List.mem_filter.mp dispatched).1⟩⟩
  · obtain ⟨next, moved⟩ := run.moment member
    rw [event] at moved
    exact moved.untrapped
  · obtain ⟨next, stepped⟩ := run.happened (m := m) (split ▸ List.mem_append_cons_self)
    rw [event] at stepped
    obtain ⟨first, firstly, through⟩ := (run.before split).through
      (fun m member => prompt m (split ▸ List.mem_append_left _ member)) stepped
    -- The pass was called before it returned, so this call is its call.
    cases called.symm.trans (split ▸ getElem?_passCalls_append firstly)
    exact through
  · have arms : m.event.arms? = some 0 := by rw [event]; rfl
    have listed : 0 ∈ Host.arms past :=
      List.mem_filterMap.mpr ⟨m, split ▸ List.mem_append_cons_self, arms⟩
    exact ⟨run.armedOnce.first before m after 0 split arms, run.armedOnce.armed.mpr (List.ne_nil_of_mem listed)⟩
  · have sized := grown.frames.length_le
    exact run.canReturn found fun i member =>
      Nat.lt_of_lt_of_le (listed (List.mem_append_right _ member)) sized

end

/-- Three frames, one of which stops and one of which begins to run by itself before their turns come, and a
frame that is registered too late. -/
def changingFrames : List Event :=
  [.registration (.attempt (.ofName "a")), .registration (.attempt (.ofName "b")),
    .registration (.attempt (.ofName "c")), .flag 1 true, .advance 20, .startup .call, .startup (.turn 0),
    .flag 1 false, .registration (.attempt (.ofName "d")), .startup (.beginRun 0), .flag 0 true, .advance 50,
    .flag 2 true, .advance 70, .startup (.turn 0), .advance 120, .startup (.turn 0), .startup (.turn 0),
    .armAfter 0, .advance 500]

theorem starts_paced_changingFrames :
    ∃ past h call pass, (newAt .fresh ⟨50⟩ ⟨60000⟩).run? changingFrames = some (past, h) ∧
      (passCalls past)[0]? = some call ∧ (∀ m ∈ past, m.keepsPace 0) ∧
      looks 0 past = [⟨20, 0, false, some 0⟩, ⟨70, 1, false, some 1⟩, ⟨120, 2, true, none⟩] ∧
      returns 0 past = [(120, 2)] ∧ h.starts.passes[0]? = some pass ∧
      Paced (newAt .fresh ⟨50⟩ ⟨60000⟩) past h 0 call pass := by
  obtain ⟨⟨past, h⟩, ran⟩ : ∃ result, (newAt .fresh ⟨50⟩ ⟨60000⟩).run? changingFrames = some result :=
    ⟨_, rfl⟩
  have facts : ∀ result ∈ (newAt .fresh ⟨50⟩ ⟨60000⟩).run? changingFrames,
      0 < (passCalls result.1).length ∧ (∀ m ∈ result.1, m.keepsPace 0) ∧
      looks 0 result.1 = [⟨20, 0, false, some 0⟩, ⟨70, 1, false, some 1⟩, ⟨120, 2, true, none⟩] ∧
      returns 0 result.1 = [(120, 2)] := by
    decide
  obtain ⟨bound, prompt, looked, returned⟩ := facts _ ran
  have called := List.getElem?_eq_getElem bound
  obtain ⟨pass, found, paced⟩ := starts_paced (Run.of_start ran) called prompt
  exact ⟨past, h, _, pass, ran, called, prompt, looked, returned, found, paced⟩

end FrameHost.Host
