import FrameHost.Proofs.Host.Sequences
import FrameHost.Proofs.Shutdown.Completion
import FrameHost.Proofs.Shutdown.Timetable

/-! The timetable of the shutdown sequences of a host.

A run of the host is prompt for a controller if the clock never advances past what the controller has
to do by itself, nor past the deadline of a frame or a finalizer that is still at work for it. -/

set_option autoImplicit false

namespace FrameHost.Host

def Event.advance? : Event → Option Nat
  | .advance now => some now
  | _ => none

/-- The clock advances only as far as a controller may wait. -/
def Moment.prompt (c : Nat) (m : Moment) : Prop :=
  ∀ now ∈ m.event.advance?, m.before.clock.now < now → ∀ s ∈ m.before.controllers[c]?,
    s.Waits m.before.registry m.before.clock now

instance (c : Nat) (m : Moment) : Decidable (m.prompt c) :=
  inferInstanceAs (Decidable (∀ now ∈ m.event.advance?, _))

/-- Work on the calls of a controller alone, giving none of them up, can bring all of them to an end. -/
def CanEnd (start : Host) (past : List Moment) (c : Nat) : Prop :=
  ∃ more last s, Run start (past ++ more) last ∧
    (∀ m ∈ more, ∃ e, m.event = .shutdown c e ∧ (∃ k, e.call? = some k) ∧ ∀ k, e ≠ .abandon k) ∧
    last.controllers[c]? = some s ∧
    ∀ k call, s.call? k = some call → ∃ report, call.phase = .ended report

section
variable {h h' : Host} {e : Event} {happenings : List Happening}

theorem Parts.clock_cases (parts : Parts h e h' happenings) :
    h'.clock = h.clock ∨ ∃ now, e = .advance now ∧ h.clock.now ≤ now ∧ h'.clock.now = now := by
  cases parts with
  | advance later => exact .inr ⟨_, rfl, later, rfl⟩
  | _ => exact .inl rfl

theorem step_shutdown {c : Nat} {s s' : Shutdown.Controller} {e : Shutdown.Event}
    {happenings : List Shutdown.Happening} (found : h.controllers[c]? = some s)
    (stepped : s.step h.registry h.clock e = some (s', happenings)) :
    ∃ metrics, h.step (.shutdown c e) = some
      ({ h with controllers := h.controllers.set c s', metrics }, happenings.map (.shutdown c)) := by
  simp [step, stepParts, found, stepped]

end

section
variable {clock : Clock} {startInterval shutdownTimeout : Duration} {past : List Moment} {h : Host}
  {c : Nat} {s : Shutdown.Controller}

theorem Run.timed (run : Run (newAt clock startInterval shutdownTimeout) past h)
    (found : h.controllers[c]? = some s)
    (kept : ∀ m ∈ past, ∀ k, m.event ≠ .shutdown c (.abandon k)) (prompt : ∀ m ∈ past, m.prompt c) :
    ∃ defaultTimeout,
      Shutdown.Controller.Timed { defaultTimeout } (moments c past) s h.clock.now := by
  induction run generalizing s with
  | start =>
    obtain ⟨bound, rfl⟩ := List.getElem?_eq_some_iff.mp found
    have first : c = 0 := by simpa [newAt, new] using bound
    subst first
    exact ⟨shutdownTimeout, .start⟩
  | @step past h h' e happenings run stepped ih =>
    obtain ⟨parts, metrics, moved, rfl⟩ := Parts.of_step stepped
    have earlier {s : Shutdown.Controller} (before : h.controllers[c]? = some s) :=
      ih before (fun m member => kept m (List.mem_append_left _ member))
        fun m member => prompt m (List.mem_append_left _ member)
    have last := List.mem_append_right past (List.mem_singleton.mpr (rfl : (⟨h, e, happenings⟩ : Moment) = _))
    rw [moments_concat]
    rcases moved.controller_cases found with ⟨before, silent⟩ | ⟨new, silent, defaultTimeout, rfl⟩ |
        ⟨s₀, asked, before, asks, worked⟩
    · obtain ⟨defaultTimeout, timed⟩ := earlier before
      have none : Moment.of? c ⟨h, e, happenings⟩ = none := by simp [Moment.of?, silent]
      refine ⟨defaultTimeout, ?_⟩
      simp only [none, Option.toList_none, List.append_nil]
      -- The controller is as it was; only the clock may have moved on.
      rcases moved.clock_cases with same | ⟨now, advanced, later, shows⟩
      · rwa [same]
      · rw [shows]
        rcases Nat.lt_or_eq_of_le later with passed | same
        · exact timed.pass passed (prompt _ last now (by simp [advanced, Event.advance?]) passed s before)
        · rwa [← same]
    · have none : Moment.of? c ⟨h, e, happenings⟩ = none := by simp [Moment.of?, silent]
      refine ⟨defaultTimeout, ?_⟩
      -- A controller that is added now has no past.
      rw [none, run.moments_eq_nil (Nat.le_of_eq new.symm)]
      exact .start
    · obtain ⟨defaultTimeout, timed⟩ := earlier before
      have now : Moment.of? c ⟨h, e, happenings⟩ =
          some ⟨h.registry, h.clock, s₀, asked, happenings.filterMap (·.of? c)⟩ := by
        simp [Moment.of?, before, asks]
      have present : parts.clock.now = h.clock.now := by
        rcases moved.clock_cases with same | ⟨now, rfl, -⟩
        · rw [same]
        · cases asks
      refine ⟨defaultTimeout, ?_⟩
      rw [now, present]
      refine timed.step (fun m member => (run.moments_grown member).1) (fun k same => ?_) worked
      subst same
      rcases Event.of_asks? asks with direct | ⟨-, request⟩
      · exact kept _ last k direct
      · cases request

theorem Run.completes (run : Run (newAt clock startInterval shutdownTimeout) past h)
    (found : h.controllers[c]? = some s)
    (kept : ∀ m ∈ past, ∀ k, m.event ≠ .shutdown c (.abandon k)) :
    CanEnd (newAt clock startInterval shutdownTimeout) past c := by
  -- The work that is left becomes less with every step of a call that has not ended.
  induction work : s.left h.registry.size using Nat.strongRecOn generalizing past h s with
  | _ n ih =>
    subst work
    by_cases unfinished : ∃ k call, s.call? k = some call ∧ ∀ report, call.phase ≠ .ended report
    · obtain ⟨k, call, called, unended⟩ := unfinished
      obtain ⟨defaultTimeout, run'⟩ := run.controller found
      obtain ⟨n, admitted⟩ := run'.admitted (moments_kept kept)
      have sized := run'.sized rfl fun m member => (run.moments_grown member).1
      obtain ⟨e, s', happenings, advances⟩ := admitted.advances called unended sized
      obtain ⟨metrics, stepped⟩ := step_shutdown found advances.step.to_step
      have bound := (List.getElem?_eq_some_iff.mp found).1
      obtain ⟨more, last, t, run, done, there, ended⟩ :=
        ih _ advances.less (run.step stepped) (List.getElem?_set_self bound)
          (fun m member k same => by
            rcases List.mem_append.mp member with before | now
            · exact kept m before k same
            · cases List.mem_singleton.mp now
              cases same
              exact advances.kept k rfl) rfl
      refine ⟨_ :: more, last, t, by simpa using run, fun m member => ?_, there, ended⟩
      rcases List.mem_cons.mp member with rfl | later
      · exact ⟨e, rfl, advances.concerns, advances.kept⟩
      · exact done m later
    · refine ⟨[], h, s, by simpa using run, (fun m member => nomatch member), found, fun k call called => ?_⟩
      refine Classical.byContradiction fun none => unfinished ⟨k, call, called, fun report ended => ?_⟩
      exact none ⟨report, ended⟩

/-- The sequences of a controller keep to a timetable, whatever else happens to the host, if nobody gives
up a call and every frame and finalizer is through by the deadline it was told, or at once if that is
over. They can always be brought to an end, for none of them gets stuck. -/
theorem sequences_timed (run : Run (newAt clock startInterval shutdownTimeout) past h)
    (found : h.controllers[c]? = some s)
    (kept : ∀ m ∈ past, ∀ k, m.event ≠ .shutdown c (.abandon k)) (prompt : ∀ m ∈ past, m.prompt c) :
    Shutdown.Controller.Timetable (moments c past) h.clock.now ∧
      CanEnd (newAt clock startInterval shutdownTimeout) past c := by
  obtain ⟨defaultTimeout, timed⟩ := run.timed found kept prompt
  exact ⟨timed.timetable, run.completes found kept⟩

end

/-- What is left of a sequence after the last stop, if its finalizer takes until a time. -/
def finishes (k later : Nat) : List Event :=
  [.shutdown 0 (.passBarrier k), .advance later, .shutdown 0 (.endFinalizer k .ok)] ++
    List.replicate 6 (.shutdown 0 (.close k))

/-- Three shutdowns of two frames: the first takes all the time it has, the second queues beyond its own
deadline, and the third takes as long as its slower frame and the finalizer together. -/
def threeShutdowns : List Event :=
  [.registration (.attempt (.ofName "a")), .registration (.attempt (.ofName "b")),
    .shutdown 0 (.setFinalizer 7), .shutdown 0 (.request (some ⟨500⟩)), .shutdown 0 (.acquire 0),
    .shutdown 0 (.invoke 0 0), .shutdown 0 (.invoke 0 1), .advance 100,
    .shutdown 0 (.request (some ⟨200⟩)), .advance 400, .shutdown 0 (.finish 0 1 true), .advance 500,
    .shutdown 0 (.finish 0 0 false)] ++ finishes 0 500 ++
  [.shutdown 0 (.acquire 1), .shutdown 0 (.invoke 1 0), .shutdown 0 (.invoke 1 1),
    .shutdown 0 (.panic 1 1 "late"), .shutdown 0 (.finish 1 0 true)] ++ finishes 1 500 ++
  [.advance 520, .shutdown 0 (.request none), .shutdown 0 (.acquire 2), .shutdown 0 (.invoke 2 0),
    .shutdown 0 (.invoke 2 1), .advance 560, .shutdown 0 (.finish 2 0 true), .advance 590,
    .shutdown 0 (.finish 2 1 true)] ++ finishes 2 600 ++
  [.advance 700000]

def turns (past : List Shutdown.Moment) : List (Option Nat × Nat) :=
  past.flatMap fun m =>
    (m.happenings.filter fun h => h.rank = 1 ∨ h.rank = 11).map fun h => (h.call?, m.clock.now)

example : ((newAt .fresh ⟨50⟩ ⟨60000⟩).run? threeShutdowns).map (fun result => turns (moments 0 result.1)) =
    some [(some 0, 0), (some 0, 500), (some 1, 500), (some 1, 500), (some 2, 520), (some 2, 600)] := by
  decide

theorem sequences_timed_threeShutdowns :
    ∃ past h s, (newAt .fresh ⟨50⟩ ⟨60000⟩).run? threeShutdowns = some (past, h) ∧
      h.controllers[0]? = some s ∧ (∀ m ∈ past, ∀ k, m.event ≠ .shutdown 0 (.abandon k)) ∧
      (∀ m ∈ past, m.prompt 0) ∧
      Shutdown.Controller.Timetable (moments 0 past) h.clock.now ∧
      CanEnd (newAt .fresh ⟨50⟩ ⟨60000⟩) past 0 := by
  obtain ⟨⟨past, h⟩, ran⟩ : ∃ result, (newAt .fresh ⟨50⟩ ⟨60000⟩).run? threeShutdowns = some result :=
    ⟨_, rfl⟩
  have kept : ∀ m ∈ past, ∀ k, m.event ≠ .shutdown 0 (.abandon k) := by
    intro m member k abandoned
    have listed := event_mem_of_run? ran member
    simp [threeShutdowns, finishes, abandoned] at listed
  have prompt : ∀ m ∈ past, m.prompt 0 := by
    have all : ∀ result ∈ (newAt .fresh ⟨50⟩ ⟨60000⟩).run? threeShutdowns,
        ∀ m ∈ result.1, m.prompt 0 := by
      decide
    exact all _ ran
  have present : ((newAt .fresh ⟨50⟩ ⟨60000⟩).run? threeShutdowns).all
      (fun result => 0 < result.2.controllers.length) = true := by
    decide
  rw [ran] at present
  have bound : 0 < h.controllers.length := by simpa using present
  have found : h.controllers[0]? = some h.controllers[0] := List.getElem?_eq_getElem bound
  exact ⟨past, h, _, ran, found, kept, prompt,
    sequences_timed (Run.of_start ran) found kept prompt⟩

end FrameHost.Host
