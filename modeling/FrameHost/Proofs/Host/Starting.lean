import FrameHost.Proofs.Host.Running
import FrameHost.Proofs.Startup.Step

/-! The starts of the frames of a host.

A pass goes by what a frame says at its turn, and keeps no account of its own. A frame that says that it
is running as long as a run of it is under way is not started again meanwhile; a start whose run has not
begun yet holds nothing back. -/

set_option autoImplicit false

namespace FrameHost.Host

def Happening.startup? : Happening → Option Startup.Happening
  | .startup h => some h
  | _ => none

def startTrace (past : List Moment) : List Startup.Happening :=
  (past.flatMap Moment.happenings).filterMap Happening.startup?

/-- Every frame with a run under way says that it is running. -/
def Attests (h : Host) : Prop := ∀ run ∈ h.starts.runs, run.phase = .begun → h.isRunningAt run.frame = true

instance (h : Host) : Decidable h.Attests := inferInstanceAs (Decidable (∀ run ∈ h.starts.runs, _))

section
variable {h h' : Host} {e : Event} {happenings : List Happening} {past : List Moment}

theorem startTrace_concat (m : Moment) :
    startTrace (past ++ [m]) = startTrace past ++ m.happenings.filterMap Happening.startup? := by
  simp [startTrace]

theorem mem_startup?_iff {x : Startup.Happening} :
    x ∈ happenings.filterMap Happening.startup? ↔ .startup x ∈ happenings := by
  rw [List.mem_filterMap]
  constructor
  · rintro ⟨happening, member, same⟩
    cases happening with
    | startup y =>
      cases same
      exact member
    | _ => cases same
  · exact fun member => ⟨_, member, rfl⟩

theorem filterMap_startup? (happenings : List Startup.Happening) :
    (happenings.map Happening.startup).filterMap Happening.startup? = happenings := by
  rw [List.filterMap_map]
  exact List.filterMap_some

theorem Parts.starts_cases (parts : Parts h e h' happenings) :
    (∃ asked, e = .startup asked ∧ Startup.Starts.Step h.registry h.isRunningAt h.startInterval h.clock.now
      h.starts asked h'.starts (happenings.filterMap Happening.startup?)) ∨
    ((∀ asked, e ≠ .startup asked) ∧ h'.starts = h.starts ∧ happenings.filterMap Happening.startup? = []) := by
  cases parts with
  | startup moved =>
    refine .inl ⟨_, rfl, ?_⟩
    rw [filterMap_startup?]
    exact .of_step moved
  | registration => exact .inr ⟨nofun, rfl, filterMap_foreign (fun _ => rfl) _⟩
  | arm event =>
    refine .inr ⟨?_, rfl, filterMap_foreign (fun _ => rfl) _⟩
    rcases event with rfl | ⟨p, rfl, -⟩ <;> nofun
  | called =>
    refine .inr ⟨nofun, rfl, ?_⟩
    rw [List.filterMap_cons_none rfl]
    exact filterMap_foreign (fun _ => rfl) _
  | shutdown => exact .inr ⟨nofun, rfl, filterMap_foreign (fun _ => rfl) _⟩
  | _ => exact .inr ⟨nofun, rfl, rfl⟩

end

section
variable {clock : Clock} {startInterval shutdownTimeout : Duration} {past before after : List Moment}
  {h : Host} {m : Moment}

theorem Run.traced (run : Run (newAt clock startInterval shutdownTimeout) past h) :
    Startup.Traced (startTrace past) h.starts := by
  induction run with
  | start => exact ⟨nofun, nofun⟩
  | @step past h h' e happenings run stepped ih =>
    obtain ⟨parts, metrics, moved, rfl⟩ := Parts.of_step stepped
    rw [startTrace_concat]
    -- Only an event of the starts adds to their trace, and only such an event changes them.
    rcases moved.starts_cases with ⟨asked, -, step⟩ | ⟨-, same, silent⟩
    · exact ih.step step
    · simp only [silent, List.append_nil]
      exact same ▸ ih

theorem Run.moment (run : Run (newAt clock startInterval shutdownTimeout) past h) (member : m ∈ past) :
    ∃ next, Parts m.before m.event next m.happenings := by
  obtain ⟨next, stepped⟩ := run.happened member
  obtain ⟨parts, metrics, moved, -⟩ := Parts.of_step stepped
  exact ⟨parts, moved⟩

/-- At its turn a frame is started exactly if it does not say that it is running. So if all frames with a
run under way say so, no earlier start of a frame that is started is under way: none has a run that has begun
and has not ended. -/
theorem starts_not_duplicated (run : Run (newAt clock startInterval shutdownTimeout) past h)
    (split : past = before ++ m :: after) :
    (∀ p pass i rest, m.event = .startup (.turn p) → m.before.starts.passes[p]? = some pass →
      pass.remaining = i :: rest →
      ((∃ r id, .startup (.dispatched p r i id) ∈ m.happenings) ↔ m.before.isRunningAt i = false)) ∧
    ∀ p r i id, .startup (.dispatched p r i id) ∈ m.happenings →
      m.before.isRunningAt i = false ∧
      (m.before.Attests → ∀ p' r' id', .dispatched p' r' i id' ∈ startTrace before →
        Startup.course (startTrace before) r' = [.dispatched p' r' i id'] ∨
        Startup.course (startTrace before) r' =
          [.dispatched p' r' i id', .runBegan r' i, .runEnded r' i]) := by
  obtain ⟨next, moved⟩ := run.moment (m := m) (split ▸ List.mem_append_cons_self)
  have traced := (run.before split).traced
  rcases moved.starts_cases with ⟨asked, event, step⟩ | ⟨other, -, silent⟩
  · refine ⟨fun p pass i rest turn found looks => ?_, fun p r i id dispatched => ?_⟩
    · cases event.symm.trans turn
      simp only [← mem_startup?_iff]
      exact step.dispatched_iff found looks
    · -- The frame says that it is not running, so none of its runs is under way.
      have idle := step.idle_of_dispatched (mem_startup?_iff.mpr dispatched)
      refine ⟨idle, fun attests p' r' id' earlier => traced.settled (fun run member own begun => ?_) earlier⟩
      have busy := attests run member begun
      rw [own, idle] at busy
      cases busy
  · refine ⟨fun p pass i rest turn => (other _ turn).elim, fun p r i id dispatched => ?_⟩
    have none := mem_startup?_iff.mpr dispatched
    rw [silent] at none
    cases none

end

theorem run?_step {start : Host} {events : List Event} {e : Event} {happenings : List Happening}
    {trace : List Startup.Happening}
    (traced : (start.run? events).map (startTrace ·.1) = some trace)
    (started : (start.run? events).bind (fun result => (result.2.step e).map Prod.snd) = some happenings) :
    ∃ past h h', start.run? events = some (past, h) ∧ Run start past h ∧
      h.step e = some (h', happenings) ∧ startTrace past = trace := by
  obtain ⟨⟨past, h⟩, ran, same⟩ := Option.map_eq_some_iff.mp traced
  rw [ran] at started
  obtain ⟨⟨h', _⟩, stepped, rfl⟩ := Option.map_eq_some_iff.mp started
  exact ⟨past, h, h', ran, .of_start ran, stepped, same⟩

/-- A frame that is started, is passed over while it runs, and has come to its end. -/
def startedAgain : List Event :=
  [.registration (.attempt (.ofName "a")), .startup .call, .startup (.turn 0), .startup (.beginRun 0),
    .flag 0 true, .advance 50, .startup (.turn 0), .startup .call, .startup (.turn 1), .startup (.turn 1),
    .flag 0 false, .startup (.endRun 0), .startup .call]

theorem starts_not_duplicated_startedAgain :
    ∃ past h h' happenings, (newAt .fresh ⟨50⟩ ⟨60000⟩).run? startedAgain = some (past, h) ∧
      h.step (.startup (.turn 2)) = some (h', happenings) ∧
      .startup (.dispatched 2 1 0 (.ofName "a")) ∈ happenings ∧ h.Attests ∧ h.isRunningAt 0 = false ∧
      (Startup.course (startTrace past) 0 = [.dispatched 0 0 0 (.ofName "a")] ∨
        Startup.course (startTrace past) 0 =
          [.dispatched 0 0 0 (.ofName "a"), .runBegan 0 0, .runEnded 0 0]) := by
  have traced : ((newAt .fresh ⟨50⟩ ⟨60000⟩).run? startedAgain).map (startTrace ·.1) =
      some [.dispatched 0 0 0 (.ofName "a"), .runBegan 0 0, .returned 0 1, .skipped 1 0 (.ofName "a"),
        .returned 1 0, .runEnded 0 0] := by
    decide
  have attests : ∀ result ∈ (newAt .fresh ⟨50⟩ ⟨60000⟩).run? startedAgain, result.2.Attests := by decide
  obtain ⟨past, h, h', ran, run, stepped, trace⟩ := run?_step (e := .startup (.turn 2)) traced rfl
  have dispatched := List.mem_singleton.mpr (rfl : Happening.startup (.dispatched 2 1 0 (.ofName "a")) = _)
  have earlier : .dispatched 0 0 0 (.ofName "a") ∈ startTrace past := by simp [trace]
  obtain ⟨idle, settled⟩ := (starts_not_duplicated (run.step stepped) rfl).2 2 1 0 (.ofName "a") dispatched
  exact ⟨past, h, h', _, ran, stepped, dispatched, attests _ ran, idle,
    settled (attests _ ran) 0 0 (.ofName "a") earlier⟩

/-- Two passes at a time, the second of which looks at a frame before its first run has begun. -/
def overlappingPasses : List Event :=
  [.registration (.attempt (.ofName "a")), .startup .call, .startup .call, .startup (.turn 0)]

/-- A frame that says that it has stopped before its run has ended, and a second pass. -/
def stoppedEarly : List Event :=
  [.registration (.attempt (.ofName "a")), .startup .call, .startup (.turn 0), .startup (.beginRun 0),
    .flag 0 true, .advance 50, .startup (.turn 0), .flag 0 false, .startup .call]

/-- A frame may be started again before its first run has come to its end: by a pass that looks at it before
this run has begun, however truly all frames say whether they are running, or by one to which it says that
it is not running while this run is under way. -/
theorem starts_duplicated :
    (¬∀ (clock : Clock) (startInterval shutdownTimeout : Duration) (past before after : List Moment)
      (h : Host) (m : Moment) (p r i : Nat) (id : FrameId),
      Run (newAt clock startInterval shutdownTimeout) past h → (∀ m ∈ past, m.before.Attests) →
      past = before ++ m :: after → .startup (.dispatched p r i id) ∈ m.happenings →
      ∀ p' r' id', .dispatched p' r' i id' ∈ startTrace before → .runEnded r' i ∈ startTrace before) ∧
    ¬∀ (clock : Clock) (startInterval shutdownTimeout : Duration) (past before after : List Moment)
      (h : Host) (m : Moment) (p r i : Nat) (id : FrameId),
      Run (newAt clock startInterval shutdownTimeout) past h →
      past = before ++ m :: after → .startup (.dispatched p r i id) ∈ m.happenings →
      ∀ r', .runBegan r' i ∈ startTrace before → .runEnded r' i ∈ startTrace before := by
  constructor
  · intro single
    have traced : ((newAt .fresh ⟨50⟩ ⟨60000⟩).run? overlappingPasses).map (startTrace ·.1) =
        some [.dispatched 0 0 0 (.ofName "a")] := by
      decide
    have attests : ∀ result ∈ (newAt .fresh ⟨50⟩ ⟨60000⟩).run? overlappingPasses,
        (∀ m ∈ result.1, m.before.Attests) ∧ result.2.Attests := by
      decide
    obtain ⟨past, h, h', ran, run, stepped, trace⟩ := run?_step (e := .startup (.turn 1)) traced rfl
    obtain ⟨all, last⟩ := attests _ ran
    have ended := single .fresh ⟨50⟩ ⟨60000⟩ _ past [] h' _ 1 1 0 (.ofName "a") (run.step stepped)
      (fun m member => by
        rcases List.mem_append.mp member with before | now
        · exact all m before
        · exact List.mem_singleton.mp now ▸ last)
      rfl (List.mem_singleton.mpr rfl) 0 0 (.ofName "a")
    simp [trace] at ended
  · intro single
    have traced : ((newAt .fresh ⟨50⟩ ⟨60000⟩).run? stoppedEarly).map (startTrace ·.1) =
        some [.dispatched 0 0 0 (.ofName "a"), .runBegan 0 0, .returned 0 1] := by
      decide
    obtain ⟨past, h, h', ran, run, stepped, trace⟩ := run?_step (e := .startup (.turn 1)) traced rfl
    have ended := single .fresh ⟨50⟩ ⟨60000⟩ _ past [] h' _ 1 1 0 (.ofName "a") (run.step stepped) rfl
      (List.mem_singleton.mpr rfl) 0
    simp [trace] at ended

end FrameHost.Host
