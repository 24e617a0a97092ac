import FrameHost.Proofs.Session.Waking

/-! What a session with tokens tells its caller.

Each step of the caller adds some events to the past of the tokens, and what the caller is told is what the
tokens then show. -/

set_option autoImplicit false

namespace FrameHost.Session.Tokens

open FrameHost.Tokens (Scene Moment Timed Event Wait Shows Accounted causes)

def Step.token? : Step → Option Nat
  | .clone i | .cancel i | .cancelAfter i _ | .wait i | .state i | .unknown _ i => some i
  | .timeout _ | .deadline _ | .sleep _ => none

/-- What a step of the caller makes happen, and what the caller is told. -/
inductive Told (before after : Scene) : Step → List Event → Answer → Prop where
  | timeout {length : Duration} {d : Nat} (fits : before.clock.deadline? length = some d) :
      Told before after (.timeout length) [.timeout length] (.number before.tokens.tokens.length)
  | overflow {length : Duration} (exceeds : before.clock.deadline? length = none) :
      Told before after (.timeout length) [] .overflow
  | deadline {d : Nat} : Told before after (.deadline d) [.deadline d] (.number before.tokens.tokens.length)
  | clone {i : Nat} : Told before after (.clone i) [.clone i] (.number before.tokens.tokens.length)
  | cancel {i : Nat} : Told before after (.cancel i) [.cancel i] .done
  | cancelAfter {i millis : Nat} : Told before after (.cancelAfter i millis) [] .done
  | sleep {millis : Nat} {events : List Event} (meanwhile : ∀ e ∈ events, Meanwhile e)
      (slept : after.now = before.now + min millis longestSleep) : Told before after (.sleep millis) events .done
  | wait {i : Nat} {events : List Event} (meanwhile : ∀ e ∈ events, Meanwhile e)
      (waited : after.waits = before.waits ++ [{ token := i, begun := before.now, ended := some after.now }]) :
      Told before after (.wait i) ([.wait i] ++ events ++ [.resolve before.waits.length])
        (.waited (after.now - before.now))
  | state {i : Nat} {t : Token} (there : before.tokens.get? i = some t) :
      Told before after (.state i) [] (.state (t.fired before.now) (t.remaining before.now) t.deadline)
  | unknown {i : Nat} {name : String} : Told before after (.unknown name i) [] (.unknown name)
  | missing {i : Nat} {step : Step} (named : step.token? = some i) (nobody : before.tokens.get? i = none) :
      Told before after step [] .noToken

/-- Sessions of any length: their steps and answers, what has happened, and the scene that shows it. -/
inductive Played : List Step → List (Nat × Answer) → State → List Moment → Scene → Prop where
  | start : Played [] [] {} [] { clock := .fresh }
  | step {steps : List Step} {answers : List (Nat × Answer)} {s : State} {past more : List Moment}
      {scene scene' : Scene} {step : Step} (played : Played steps answers s past scene)
      (timed : Timed scene more scene') (mirrors : Mirrors none (s.take step).1 scene')
      (told : Told scene scene' step (more.map Moment.event) (s.take step).2) :
      Played (steps ++ [step]) (answers ++ [(scene'.now, (s.take step).2)]) (s.take step).1 (past ++ more) scene'

section
variable {s : State} {scene scene' : Scene} {w : Waiting} {i j : Nat} {t : Token}

theorem Played.timed {steps : List Step} {answers : List (Nat × Answer)} {past : List Moment}
    (played : Played steps answers s past scene) : Timed { clock := .fresh } past scene := by
  induction played with
  | start => exact .start
  | step _ timed _ _ ih => exact ih.append timed

namespace State

theorem Rests.deal {e : Event} {tokens : FrameHost.Tokens} (rests : s.Rests) (mirrors : Mirrors none s scene)
    (stepped : scene.step? e = some { scene with tokens }) :
    Rests { s with tokens } ∧ Mirrors none { s with tokens } { scene with tokens } := by
  have tidy := rests.tidy
  refine ⟨⟨⟨tidy.ordered, tidy.timed, tidy.queued, fun c member => ?_, tidy.light⟩, rests.waiting, rests.unwoken,
    rests.timers⟩, ⟨rfl, mirrors.clock, mirrors.waits⟩⟩
  obtain ⟨t, there⟩ := tidy.held c member
  rw [← mirrors.tokens] at there
  exact ((Scene.Step.of_step? stepped).get? there).elim (fun kept => ⟨t, kept⟩) fun cancelled => ⟨_, cancelled.1⟩

theorem Rests.cancel (rests : s.Rests) : (s.cancel j).Rests := by
  refine ⟨rests.tidy.cancel, ?_, ?_, ?_⟩
  · rw [cancel_eq]
    exact rests.waiting
  · rw [mainWoken_cancel, rests.unwoken, watches, rests.waiting]
    rfl
  · rw [cancel_eq]
    exact rests.timers

theorem Rests.cancelAfter {millis : Nat} (rests : s.Rests) (there : s.tokens.get? i = some t) : Rests { s with
    cancellers := s.cancellers ++ [{ token := i, millis }]
    schedule := s.schedule.wake (s.cancellers.length + 1) } := by
  have tidy := rests.tidy
  have ordered : (s.schedule.wake (s.cancellers.length + 1)).Ordered := tidy.ordered.wake
  -- The new task has chosen no time yet, so all times are those of the others.
  have due : ∀ task d, Due { s with
      cancellers := s.cancellers ++ [{ token := i, millis }]
      schedule := s.schedule.wake (s.cancellers.length + 1) } task d ↔ s.Due task d := by
    intro task d
    simp only [Due, getElem?_concat_eq_some_iff]
    constructor
    · rintro ⟨c, old | ⟨-, rfl⟩, set⟩
      · exact ⟨c, old, set⟩
      · cases set
    · rintro ⟨c, old, set⟩
      exact ⟨c, .inl old, set⟩
  constructor
  · constructor
    · exact ordered
    · intro t member other
      rw [Schedule.timers_wake] at member
      exact (due ..).mpr (tidy.timed t member other)
    · intro task member d set
      rw [State.now, Schedule.now_wake]
      rcases Schedule.mem_queue_wake.mp member with old | ⟨rfl, -⟩
      · exact tidy.queued task old d ((due ..).mp set)
      · obtain ⟨c, found, -⟩ := (due ..).mp set
        exact absurd (List.getElem?_eq_some_iff.mp found).1 (Nat.lt_irrefl _)
    · intro c member
      rcases List.mem_append.mp member with old | new
      · exact tidy.held c old
      · cases List.mem_singleton.mp new
        exact ⟨t, there⟩
    · have light := tidy.light
      have woken : (s.schedule.wake (s.cancellers.length + 1)).load ≤ s.schedule.load + 1 := Schedule.load_wake
      have fresh : Canceller.fresh { token := i, millis } = true := rfl
      simp only [burden, List.length_append, List.countP_append, List.countP_singleton, fresh, if_true,
        List.length_singleton] at light ⊢
      omega
  · exact rests.waiting
  · refine Bool.eq_false_iff.mpr fun woken => ?_
    rcases Schedule.mainWoken_wake.mp woken with old | zero
    · cases old.symm.trans rests.unwoken
    · cases zero
  · intro t member
    rw [Schedule.timers_wake] at member
    exact rests.timers t member

theorem Rests.awaits (rests : s.Rests) (mirrors : Mirrors none s scene) (there : s.tokens.get? i = some t) :
    let s' := s.wait { due := t.deadline, token := some i }
    ∃ more scene', Timed scene more scene' ∧ Mirrors none s' scene' ∧ s'.Rests ∧
      Told scene scene' (.wait i) (more.map Moment.event) (.waited (s'.now - s.now)) := by
  intro s'
  have token : ∀ k, some i = some k → ∃ u, s.tokens.get? k = some u ∧ u.deadline = t.deadline := by
    rintro k ⟨⟩
    exact ⟨t, there, rfl⟩
  obtain ⟨rests', follows, ready, -⟩ := rests.wait (w := { due := t.deadline, token := some i }) token
  have there' : scene.tokens.get? i = some t := mirrors.tokens ▸ there
  have now : scene.now = s.now := congrArg Clock.now mirrors.clock
  have ended : ∀ w ∈ scene.waits, w.ended ≠ none := by
    intro w member pending
    cases mirrors.waits w member pending
  have begins : scene.step? (.wait i) =
      some { scene with waits := scene.waits ++ [{ token := i, begun := scene.now }] } := by
    simp [Scene.step?, there']
  obtain ⟨more, scene', timed, mirrors', same, meanwhile⟩ := follows
    { scene with waits := scene.waits ++ [{ token := i, begun := scene.now }] }
    ⟨mirrors.tokens, mirrors.clock, fun w member pending => by
      rcases List.mem_append.mp member with old | new
      · exact (ended w old pending).elim
      · cases List.mem_singleton.mp new
        rfl⟩
  have now' : scene'.now = s'.now := congrArg Clock.now mirrors'.clock
  obtain ⟨u, found, due, -⟩ := timed.get? there'
  have fired : scene'.fired i = true := by
    rw [Scene.fired, found, Option.any_some, now']
    rw [mirrors'.tokens] at found
    rcases Bool.or_eq_true .. ▸ ready with come | fired
    · have come : t.deadline ≤ s'.now := of_decide_eq_true come
      simpa [Token.fired, due] using .inr come
    · simpa [State.fired, found] using fired
  have place : scene'.waits[scene.waits.length]? = some { token := i, begun := scene.now } := by simp [same]
  have ends := Scene.step?_resolve place rfl fired
  have waited : scene'.waits.set scene.waits.length { token := i, begun := scene.now, ended := some scene'.now } =
      scene.waits ++ [{ token := i, begun := scene.now, ended := some scene'.now }] := by simp [same]
  rw [waited] at ends
  -- The wait begins, then other tasks run and the clock goes on, then it ends.
  have whole := ((Timed.single begins).append timed).step ends
  refine ⟨_, _, whole, ⟨mirrors'.tokens, mirrors'.clock, ?_⟩, rests', ?_⟩
  · intro w member pending
    rcases List.mem_append.mp member with old | new
    · exact (ended w old pending).elim
    · cases List.mem_singleton.mp new
      cases pending
  · rw [List.map_append, List.map_append, ← now, ← now']
    exact .wait (List.forall_mem_map.mpr meanwhile) rfl

/-- What a step of the caller comes to. -/
def Plays (scene : Scene) (step : Step) (taken : State × Answer) : Prop :=
  ∃ more scene', Timed scene more scene' ∧ Mirrors none taken.1 scene' ∧ taken.1.Rests ∧
    Told scene scene' step (more.map Moment.event) taken.2

theorem Rests.create {e : Event} {d : Nat} {step : Step} (rests : s.Rests) (mirrors : Mirrors none s scene)
    (stepped : scene.step? e = some { scene with tokens := scene.tokens.create d })
    (told : ∀ after, Told scene after step [e] (.number scene.tokens.tokens.length)) :
    Plays scene step (s.create (some d)) := by
  obtain ⟨rests', mirrors'⟩ := rests.deal mirrors stepped
  rw [mirrors.tokens] at stepped rests' mirrors' told
  exact ⟨_, _, .single stepped, mirrors', rests', told _⟩

theorem Rests.takeFor {step : Step} (rests : s.Rests) (mirrors : Mirrors none s scene)
    (named : step.token? = some i) (there : s.tokens.get? i = some t) :
    Plays scene step (s.takeFor i t step) := by
  have now : scene.now = s.now := congrArg Clock.now mirrors.clock
  cases step with
  | timeout => cases named
  | deadline => cases named
  | sleep => cases named
  | clone =>
    cases named
    obtain ⟨f, family, -⟩ := FrameHost.Tokens.get?_eq_some_iff.mp there
    obtain ⟨tokens, cloned⟩ : ∃ tokens, s.tokens.clone? i = some tokens := ⟨_, by
      rw [FrameHost.Tokens.clone?, family]
      rfl⟩
    have stepped : scene.step? (.clone i) = some { scene with tokens } := by
      simp [Scene.step?, mirrors.tokens, cloned]
    obtain ⟨rests', mirrors'⟩ := rests.deal mirrors stepped
    simp only [State.takeFor, cloned, Option.getD_some]
    refine ⟨_, _, .single stepped, mirrors', rests', ?_⟩
    rw [← mirrors.tokens]
    exact .clone
  | cancel =>
    cases named
    obtain ⟨scene', stepped, mirrors', -⟩ := step?_cancel mirrors there
    exact ⟨_, _, .single stepped, mirrors', rests.cancel, .cancel⟩
  | cancelAfter =>
    cases named
    refine ⟨[], scene, .start, ⟨mirrors.tokens, ?_, mirrors.waits⟩, rests.cancelAfter there, .cancelAfter⟩
    rw [mirrors.clock]
    simp [State.takeFor, clockNow, State.now]
  | wait =>
    cases named
    exact rests.awaits mirrors there
  | state =>
    cases named
    refine ⟨[], scene, .start, mirrors, rests, ?_⟩
    simp only [State.takeFor, ← now]
    exact .state (mirrors.tokens ▸ there)
  | unknown => exact ⟨[], scene, .start, mirrors, rests, .unknown⟩

theorem take_of_token {step : Step} (named : step.token? = some i) : s.take step =
    match s.tokens.get? i with
    | some t => s.takeFor i t step
    | none => (s, .noToken) := by
  cases step <;> cases named <;> rfl

theorem Rests.takeNamed {step : Step} (rests : s.Rests) (mirrors : Mirrors none s scene)
    (named : step.token? = some i) : Plays scene step (s.take step) := by
  rw [take_of_token named]
  cases there : s.tokens.get? i with
  | some t => exact rests.takeFor mirrors named there
  | none => exact ⟨[], scene, .start, mirrors, rests, .missing named (mirrors.tokens ▸ there)⟩

theorem Rests.take (rests : s.Rests) (mirrors : Mirrors none s scene) (step : Step) :
    Plays scene step (s.take step) := by
  have now : scene.now = s.now := congrArg Clock.now mirrors.clock
  cases step with
  | timeout length =>
    simp only [State.take, ← mirrors.clock]
    cases fits : scene.clock.deadline? length with
    | some d =>
      have stepped : scene.step? (.timeout length) = some { scene with tokens := scene.tokens.create d } := by
        simp [Scene.step?, fits]
      exact rests.create mirrors stepped fun _ => .timeout fits
    | none => exact ⟨[], scene, .start, mirrors, rests, .overflow fits⟩
  | deadline d => exact rests.create mirrors rfl fun _ => .deadline
  | sleep millis =>
    obtain ⟨rests', follows, ready, bound⟩ := rests.wait (w := { due := s.now + min millis longestSleep })
      fun _ named => by cases named
    obtain ⟨more, scene', timed, mirrors', -, meanwhile⟩ := follows scene mirrors
    refine ⟨more, scene', timed, mirrors', rests', .sleep (List.forall_mem_map.mpr meanwhile) ?_⟩
    have now' : scene'.now = _ := congrArg Clock.now mirrors'.clock
    have come : s.now + min millis longestSleep ≤ (s.wait { due := s.now + min millis longestSleep }).now := by
      simpa [State.ready] using ready
    rw [now, now']
    exact Nat.le_antisymm (Nat.le_trans bound (max_le (Nat.le_add_right ..) (Nat.le_refl _))) come
  | _ => exact rests.takeNamed mirrors rfl

end State

theorem Played.more {steps : List Step} {answers : List (Nat × Answer)} {past : List Moment}
    (played : Played steps answers s past scene) (mirrors : Mirrors none s scene) (rests : s.Rests)
    (more : List Step) :
    ∃ s' past' scene', Played (steps ++ more)
      (more.foldl
        (fun (s, answers) step =>
          let (s, answer) := s.take step
          (s, answers ++ [(s.now, answer)]))
        (s, answers)).2 s' past' scene' := by
  induction more generalizing s scene steps answers past with
  | nil => exact ⟨s, past, scene, by simpa using played⟩
  | cons step rest ih =>
    obtain ⟨added, scene', timed, mirrors', rests', told⟩ := rests.take mirrors step
    have now' : scene'.now = (s.take step).1.now := congrArg Clock.now mirrors'.clock
    have grown := played.step timed mirrors' told
    rw [now'] at grown
    simpa using ih grown mirrors' rests'

theorem rests_new : State.Rests {} := by
  constructor
  · constructor
    · constructor <;> simp
    · simp
    · simp
    · simp
    · decide
  · rfl
  · rfl
  · simp

/-- Every session is played by the holders of its tokens. -/
theorem played_run (steps : List Step) : ∃ s past scene, Played steps (run steps) s past scene :=
  Played.start.more ⟨rfl, rfl, nofun⟩ rests_new steps

end

/-- Whatever the holders of tokens do and however time passes, a token has fired exactly if its deadline has
come or a token of its family has been cancelled, waits end when their token fires, and no family touches
another. What a caller is told in a session is what such holders see. -/
theorem families_fire_together :
    (∀ clock past scene, Timed { clock } past scene → Accounted past scene) ∧
    ∀ steps, ∃ s past scene, Timed { clock := .fresh } past scene ∧ Played steps (run steps) s past scene := by
  constructor
  · intro clock past scene timed
    exact timed.accounted
  · intro steps
    obtain ⟨s, past, scene, played⟩ := played_run steps
    exact ⟨s, past, scene, played.timed, played⟩

/-- Clones of clones, a wait that a cancel ends, and one that ends at its deadline. -/
def clonesAndWaits : List Event :=
  [.timeout ⟨5000⟩, .clone 0, .clone 1, .deadline 100, .wait 2, .wait 3, .pass 40, .cancel 0, .resolve 0,
    .pass 60, .resolve 1]

/-- A wait for a clone whose original another task cancels. -/
def cancelledLater : List Step := [.timeout ⟨5000⟩, .clone 0, .cancelAfter 0 40, .wait 1, .state 1]

theorem families_fire_together_clonesAndWaits :
    (∃ past scene t u, Scene.run? { clock := .fresh } clonesAndWaits = some (past, scene) ∧
      scene.now = 100 ∧ scene.waits = [⟨2, 0, some 40⟩, ⟨3, 0, some 100⟩] ∧
      IsLeast (causes past 2 5000) 40 ∧ IsLeast (causes past 3 100) 100 ∧
      scene.tokens.get? 1 = some t ∧ Shows past 100 1 t ∧ t.fired 100 = true ∧ t.remaining 100 = 4900 ∧
      scene.tokens.get? 3 = some u ∧ Shows past 100 3 u ∧ u.cancelled = false ∧ u.fired 100 = true ∧
      u.remaining 100 = 0) ∧
    ∃ s past scene, Played cancelledLater
      [(0, .number 0), (0, .number 1), (0, .done), (40, .waited 40), (40, .state true 4960 5000)] s past scene := by
  have seen : (Scene.run? { clock := .fresh } clonesAndWaits).map (fun result =>
      (result.2.now, result.2.waits, FrameHost.Tokens.births result.1, [1, 2, 3].map result.2.tokens.get?)) =
      some (100, [⟨2, 0, some 40⟩, ⟨3, 0, some 100⟩], [.afresh 5000, .cloneOf 0, .cloneOf 1, .afresh 100],
        [some ⟨5000, true⟩, some ⟨5000, true⟩, some ⟨100, false⟩]) := by
    decide
  obtain ⟨⟨past, scene⟩, ran, seen⟩ := Option.map_eq_some_iff.mp seen
  simp only [Prod.mk.injEq, List.map_cons, List.map_nil, List.cons.injEq, and_true] at seen
  obtain ⟨now, waits, made, first, second, third⟩ := seen
  have accounted := families_fire_together.1 .fresh past scene (.of_run? ran)
  have shows {i : Nat} {t : Token} (bound : i < 4) (there : scene.tokens.get? i = some t) : Shows past 100 i t := by
    obtain ⟨u, found, shows⟩ := accounted.tokens i (by rw [made]; exact bound)
    cases there.symm.trans found
    rwa [now] at shows
  have ends {w : Wait} {t : Token} {r : Nat} (member : w ∈ scene.waits) (there : scene.tokens.get? w.token = some t)
      (ended : w.ended = some r) : ∃ x, IsLeast (causes past w.token t.deadline) x ∧ r = max w.begun x := by
    obtain ⟨u, found, prompt⟩ := accounted.waits w member
    cases there.symm.trans found
    exact (prompt.ended r ended).2
  obtain ⟨x, least, at_⟩ := ends (w := ⟨2, 0, some 40⟩) (by simp [waits]) second rfl
  obtain ⟨y, least', at_'⟩ := ends (w := ⟨3, 0, some 100⟩) (by simp [waits]) third rfl
  rw [Nat.zero_max] at at_ at_'
  subst at_
  subst at_'
  refine ⟨⟨past, scene, ⟨5000, true⟩, ⟨100, false⟩, ran, now, waits, least, least', first,
    shows (by decide) first, by decide, by decide, third, shows (by decide) third, rfl, by decide, by decide⟩, ?_⟩
  obtain ⟨s, past, scene, -, played⟩ := families_fire_together.2 cancelledLater
  have told : run cancelledLater =
      [(0, .number 0), (0, .number 1), (0, .done), (40, .waited 40), (40, .state true 4960 5000)] := by
    decide
  exact ⟨s, past, scene, told ▸ played⟩

end FrameHost.Session.Tokens
