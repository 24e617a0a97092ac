import FrameHost.Proofs.Host.Deadline
import FrameHost.Proofs.Host.Starting
import FrameHost.Proofs.Shutdown.Queue

/-! The trap of a host over a run.

Passes that return and other callers arm the trap in any order, and the signal may come at any time. The
first arming decides which controller the trap calls, and it calls it at most once. -/

set_option autoImplicit false

namespace FrameHost.Host

def Happening.trap? : Happening → Option Trap.Happening
  | .trap h => some h
  | _ => none

def trapTrace (past : List Moment) : List Trap.Happening :=
  (past.flatMap Moment.happenings).filterMap Happening.trap?

/-- The controller for which an event would arm the trap. A pass that has returned names the host's own. -/
def Event.arms? : Event → Option Nat
  | .trap (.arm c) => some c
  | .armAfter _ => some 0
  | _ => none

def arms (past : List Moment) : List Nat := past.filterMap fun m => m.event.arms?

/-- What an event does to the trap. -/
inductive TrapStep (trap : Trap) : Event → Trap → List Happening → Prop
  | arm {e : Event} {c : Nat} (arms : e.arms? = some c) (unarmed : trap.armed = false) :
      TrapStep trap e { trap with armed := true, built := trap.built + 1, controller := some c }
        [.trap .built, .trap (.armed c)]
  | refuse {e : Event} {c : Nat} (arms : e.arms? = some c) (armed : trap.armed = true) :
      TrapStep trap e trap [.trap .refused]
  | signal : TrapStep trap (.trap .signal) { trap with signalled := true } []
  | call {c : Nat} {more : List Shutdown.Happening} (armed : trap.controller = some c)
      (signalled : trap.signalled = true) (waits : trap.called = false) :
      TrapStep trap (.trap .call) { trap with called := true }
        (.trap (.received c) :: more.map (.shutdown c))
  | other {e : Event} {happenings : List Happening} (foreign : ∀ t, e ≠ .trap t) (arms : e.arms? = none)
      (silent : happenings.filterMap Happening.trap? = []) : TrapStep trap e trap happenings

section
variable {h h' : Host} {e : Event} {happenings : List Happening}

theorem Parts.trap (parts : Parts h e h' happenings) : TrapStep h.trap e h'.trap happenings := by
  cases parts with
  | @arm e c trap told event moved =>
    have arms : e.arms? = some c := by rcases event with rfl | ⟨p, rfl, rfl⟩ <;> rfl
    simp only [Trap.step] at moved
    split at moved
    · rename_i armed
      cases moved
      exact .refuse arms armed
    · rename_i unarmed
      cases moved
      exact .arm arms (Bool.eq_false_iff.mpr unarmed)
  | signal => exact .signal
  | called armed found asked signalled waits => exact .call armed signalled waits
  | registration | startup | shutdown =>
    exact .other (fun t => Event.noConfusion) rfl (filterMap_foreign (fun _ => rfl) _)
  | _ => exact .other (fun t => Event.noConfusion) rfl rfl

theorem Parts.of_call (parts : Parts h e h' happenings) (calls : e = .trap .call) :
    ∃ c s s' more, (h.trap.signalled = true ∧ h.trap.called = false) ∧ h.trap.controller = some c ∧
      h.controllers[c]? = some s ∧ s.step h.registry h.clock (.request none) = some (s', more) ∧
      happenings = .trap (.received c) :: more.map (.shutdown c) ∧
      h'.controllers = h.controllers.set c s' := by
  cases parts with
  | called armed found asked signalled waits =>
    exact ⟨_, _, _, _, ⟨signalled, waits⟩, armed, found, asked, rfl, rfl⟩
  | arm event => rcases event with event | ⟨_, event, -⟩ <;> cases event.symm.trans calls
  | _ => cases calls

theorem Parts.of_shutdown (parts : Parts h e h' happenings) {c : Nat} {asked : Shutdown.Event}
    (asks : e = .shutdown c asked) {s : Shutdown.Controller} (found : h.controllers[c]? = some s) :
    ∃ s' more, Shutdown.Controller.Step h.registry h.clock s asked s' more := by
  cases parts with
  | shutdown there moved =>
    cases asks
    cases found.symm.trans there
    exact ⟨_, _, .of_step moved⟩
  | arm event => rcases event with event | ⟨_, event, -⟩ <;> cases event.symm.trans asks
  | _ => cases asks

end

@[simp] theorem arms_concat (past : List Moment) (m : Moment) :
    arms (past ++ [m]) = arms past ++ m.event.arms?.toList := by
  cases now : m.event.arms? <;> simp [arms, now]

theorem trapTrace_concat (past : List Moment) (m : Moment) :
    trapTrace (past ++ [m]) = trapTrace past ++ m.happenings.filterMap Happening.trap? := by
  simp [trapTrace]

/-- What a trap has come to is what has happened to it. -/
structure Trapped (past : List Moment) (trap : Trap) : Prop where
  armed : trap.armed = true ↔ arms past ≠ []
  built : (trapTrace past).count .built = min 1 (arms past).length
  controller : trap.controller = (arms past).head?
  signalled : trap.signalled = true ↔ ∃ m ∈ past, m.event = .trap .signal
  called : trap.called = true ↔ ∃ m ∈ past, m.event = .trap .call

theorem Event.of_arms? {e : Event} {c : Nat} (arms : e.arms? = some c) :
    e ≠ .trap .signal ∧ e ≠ .trap .call := by
  constructor <;> rintro rfl <;> cases arms

theorem Trapped.same {past : List Moment} {m : Moment} {trap : Trap} (trapped : Trapped past trap)
    (settled : m.event.arms? = none ∨ trap.armed = true)
    (silent : (m.happenings.filterMap Happening.trap?).count .built = 0)
    (quiet : m.event ≠ .trap .signal ∧ m.event ≠ .trap .call) : Trapped (past ++ [m]) trap := by
  have arms_eq : (arms (past ++ [m]) ≠ [] ↔ arms past ≠ []) ∧
      min 1 (arms (past ++ [m])).length = min 1 (arms past).length ∧
      (arms (past ++ [m])).head? = (arms past).head? := by
    rw [arms_concat]
    rcases settled with none | armed
    · simp [none]
    · obtain ⟨c, rest, first⟩ := List.exists_cons_of_ne_nil (trapped.armed.mp armed)
      simp [first]
  refine ⟨trapped.armed.trans arms_eq.1.symm, ?_, trapped.controller.trans arms_eq.2.2.symm, ?_, ?_⟩
  · rw [trapTrace_concat, List.count_append, silent, trapped.built, arms_eq.2.1, Nat.add_zero]
  · rw [exists_concat_iff, trapped.signalled, or_iff_left quiet.1]
  · rw [exists_concat_iff, trapped.called, or_iff_left quiet.2]

theorem Trapped.step {past : List Moment} {h : Host} {e : Event} {trap : Trap} {happenings : List Happening}
    (trapped : Trapped past h.trap) (step : TrapStep h.trap e trap happenings) :
    Trapped (past ++ [⟨h, e, happenings⟩]) trap := by
  cases step with
  | @arm _ c now unarmed =>
    have first : arms past = [] := by
      rw [← Bool.not_eq_true, trapped.armed, ne_eq, Decidable.not_not] at unarmed
      exact unarmed
    have quiet := Event.of_arms? now
    refine ⟨by simp [now], ?_, by simp [first, now], ?_, ?_⟩
    · rw [trapTrace_concat, List.count_append, trapped.built]
      simp [first, now, Happening.trap?]
    · rw [exists_concat_iff, trapped.signalled, or_iff_left quiet.1]
    · rw [exists_concat_iff, trapped.called, or_iff_left quiet.2]
  | refuse now armed => exact trapped.same (.inr armed) rfl (Event.of_arms? now)
  | signal =>
    have same : arms (past ++ [⟨h, .trap .signal, []⟩]) = arms past := by simp [Event.arms?]
    refine ⟨same ▸ trapped.armed, ?_, same ▸ trapped.controller, ?_, ?_⟩
    · rw [trapTrace_concat, same]
      simpa using trapped.built
    · rw [exists_concat_iff]
      simp
    · rw [exists_concat_iff, or_iff_left nofun]
      exact trapped.called
  | @call c more armed signalled waits =>
    have silent : (more.map (Happening.shutdown c)).filterMap Happening.trap? = [] :=
      filterMap_foreign (fun _ => rfl) _
    have same : arms (past ++ [⟨h, .trap .call, .trap (.received c) :: more.map (.shutdown c)⟩]) =
        arms past := by
      simp [Event.arms?]
    refine ⟨same ▸ trapped.armed, ?_, same ▸ trapped.controller, ?_, ?_⟩
    · rw [trapTrace_concat, same]
      simpa [silent, Happening.trap?] using trapped.built
    · rw [exists_concat_iff, or_iff_left nofun]
      exact trapped.signalled
    · rw [exists_concat_iff]
      simp
  | other foreign none silent =>
    exact trapped.same (.inl none) (by simp [silent]) ⟨foreign _, foreign _⟩

section
variable {clock : Clock} {startInterval shutdownTimeout : Duration} {past before after : List Moment}
  {h : Host} {m : Moment}

theorem Run.trapped (run : Run (newAt clock startInterval shutdownTimeout) past h) : Trapped past h.trap := by
  induction run with
  | start => exact ⟨by simp [newAt, new, arms], rfl, rfl, by simp [newAt, new], by simp [newAt, new]⟩
  | @step past h h' e happenings run stepped ih =>
    obtain ⟨parts, metrics, moved, rfl⟩ := Parts.of_step stepped
    exact ih.step moved.trap

/-- The trap is built for the first arming, which succeeds, and every later one is refused. -/
structure ArmedOnce (past : List Moment) (h : Host) : Prop where
  built : (trapTrace past).count .built = min 1 (arms past).length
  first : ∀ before m after c, past = before ++ m :: after → m.event.arms? = some c →
    m.happenings = if arms before = [] then [.trap .built, .trap (.armed c)] else [.trap .refused]
  armed : h.trap.armed = true ↔ arms past ≠ []
  kept : ∀ m ∈ past, m.before.trap.armed = true → h.trap.armed = true

/-- The call of the trap, which comes after the signal and the first arming and is the only one. It asks the
controller of that arming for a shutdown. -/
structure Calls (before : List Moment) (m : Moment) (after : List Moment) (c : Nat)
    (s s' : Shutdown.Controller) : Prop where
  signalled : ∃ signal ∈ before, signal.event = .trap .signal
  armed : (arms before).head? = some c
  only : ∀ other ∈ before ++ after, other.event ≠ .trap .call
  found : m.before.controllers[c]? = some s
  changed : ∃ next, m.before.step m.event = some (next, m.happenings) ∧
    next.controllers = m.before.controllers.set c s'
  /-- Unless the clock cannot express it, the deadline is the default time ahead, and the call queues. -/
  queues : ∀ deadline, m.before.clock.deadline? s.defaultTimeout = some deadline →
    m.happenings = [.trap (.received c)] ∧ deadline = m.before.clock.now + s.defaultTimeout.millis ∧
    s' = { s with
      calls := s.calls ++ [{ timeout := s.defaultTimeout, token := { deadline } }]
      waiting := s.waiting ++ [s.calls.length] }
  overflows : m.before.clock.deadline? s.defaultTimeout = none →
    m.happenings = [.trap (.received c), .shutdown c .overflowed] ∧ s' = s
  /-- When its turn comes, no earlier call still queues or is under way. -/
  turn : ∀ later ∈ after, later.event = .shutdown c (.acquire s.calls.length) →
    ∀ now, later.before.controllers[c]? = some now → ∀ j < s.calls.length, ∀ call, now.call? j = some call →
      (∃ report, call.phase = .ended report) ∨ call.phase = .abandoned

theorem Run.armedOnce (run : Run (newAt clock startInterval shutdownTimeout) past h) : ArmedOnce past h := by
  refine ⟨run.trapped.built, fun before m after c split arms => ?_, run.trapped.armed, fun m member armed => ?_⟩
  · obtain ⟨next, moved⟩ := run.moment (split ▸ List.mem_append_cons_self : m ∈ past)
    have armed_iff := (run.before split).trapped.armed
    have step := moved.trap
    generalize m.event = e, m.happenings = happenings, next.trap = trap at arms step
    cases step with
    | arm now unarmed =>
      cases arms.symm.trans now
      rw [unarmed] at armed_iff
      rw [if_pos (by simpa using armed_iff)]
    | refuse now armed => rw [if_neg (armed_iff.mp armed)]
    | signal => cases arms
    | call => cases arms
    | other _ none => cases arms.symm.trans none
  · obtain ⟨before, after, split⟩ := List.append_of_mem member
    rw [(run.before split).trapped.armed] at armed
    rw [run.trapped.armed, split, arms, List.filterMap_append]
    exact List.append_ne_nil_of_left_ne_nil armed _

theorem Run.call_first (run : Run (newAt clock startInterval shutdownTimeout) past h)
    (split : past = before ++ m :: after) (calls : m.event = .trap .call) :
    ∀ other ∈ before, other.event ≠ .trap .call := by
  intro other member same
  obtain ⟨next, moved⟩ := run.moment (split ▸ List.mem_append_cons_self : m ∈ past)
  obtain ⟨-, -, -, -, trap, -⟩ := moved.of_call calls
  have called := (run.before split).trapped.called.mpr ⟨other, member, same⟩
  exact Bool.false_ne_true (trap.2.symm.trans called)

theorem Run.calls (run : Run (newAt clock startInterval shutdownTimeout) past h)
    (split : past = before ++ m :: after) (calls : m.event = .trap .call) :
    ∃ c s s', Calls before m after c s s' := by
  obtain ⟨next, stepped⟩ := run.happened (split ▸ List.mem_append_cons_self : m ∈ past)
  obtain ⟨parts, metrics, moved, rfl⟩ := Parts.of_step stepped
  obtain ⟨c, s, s', more, trap, armed, found, asked, told, changed⟩ := moved.of_call calls
  have trapped := (run.before split).trapped
  have only : ∀ other ∈ before ++ after, other.event ≠ .trap .call := by
    intro other member
    rcases List.mem_append.mp member with earlier | later
    · exact run.call_first split calls other earlier
    · -- A later call would find that this one has been made.
      intro same
      obtain ⟨first, last, between⟩ := List.append_of_mem later
      have whole : past = (before ++ m :: first) ++ other :: last := by simp [split, between]
      exact run.call_first whole same m (by simp) calls
  refine ⟨c, s, s', trapped.signalled.mp trap.1, trapped.controller.symm.trans armed, only, found,
    ⟨_, stepped, changed⟩, fun deadline made => ?_, fun late => ?_,
    fun later member turn now there j earlier call known => ?_⟩
  · have calls : Shutdown.Controller.Step m.before.registry m.before.clock s (.request none) _ _ := .request made
    cases calls.to_step.symm.trans asked
    exact ⟨told, ((Clock.deadline?_eq_some_iff _ _ _).mp made).2, rfl⟩
  · have fails : Shutdown.Controller.Step m.before.registry m.before.clock s (.request none) _ _ := .overflow late
    cases fails.to_step.symm.trans asked
    exact ⟨told, rfl⟩
  · obtain ⟨first, last, between⟩ := List.append_of_mem member
    have whole : past = (before ++ m :: first) ++ later :: last := by simp [split, between]
    obtain ⟨defaultTimeout, run'⟩ := (run.before whole).controller there
    obtain ⟨result, goes⟩ := run.happened (whole ▸ List.mem_append_cons_self : later ∈ past)
    obtain ⟨parts', metrics', moved', -⟩ := Parts.of_step goes
    obtain ⟨s₂, more₂, step⟩ := moved'.of_shutdown turn there
    exact run'.queued.turn step earlier known

theorem step_call_iff : (h.step (.trap .call)).isSome = true ↔
    h.trap.signalled = true ∧ h.trap.called = false ∧
      ∃ c s, h.trap.controller = some c ∧ h.controllers[c]? = some s := by
  constructor
  · intro possible
    obtain ⟨⟨next, happenings⟩, stepped⟩ := Option.isSome_iff_exists.mp possible
    obtain ⟨parts, metrics, moved, -⟩ := Parts.of_step stepped
    obtain ⟨c, s, -, -, trap, armed, found, -⟩ := moved.of_call rfl
    exact ⟨trap.1, trap.2, c, s, armed, found⟩
  · rintro ⟨signalled, waits, c, s, armed, found⟩
    have asked : ∃ s' more, s.step h.registry h.clock (.request none) = some (s', more) := by
      cases made : h.clock.deadline? s.defaultTimeout with
      | some deadline => exact ⟨_, _, Shutdown.Controller.Step.to_step (.request made)⟩
      | none => exact ⟨_, _, Shutdown.Controller.Step.to_step (.overflow made)⟩
    obtain ⟨s', more, asked⟩ := asked
    obtain ⟨next, happenings, stepped, -⟩ := (Event.AsksDefault.trapped armed signalled waits).step found asked
    rw [stepped]
    rfl

/-- Whoever arms the trap and whenever, the first arming succeeds and all others are refused. The trap calls
the controller of the first arming, for a shutdown within its default time that queues behind those that
were asked for before. It does so at most once, after the signal, and from then on until it has called
nothing keeps it from calling. -/
theorem trap_fires_once (run : Run (newAt clock startInterval shutdownTimeout) past h) :
    ArmedOnce past h ∧
    (∀ before m after, past = before ++ m :: after → m.event = .trap .call →
      ∃ c s s', Calls before m after c s s') ∧
    ((h.step (.trap .call)).isSome = true ↔
      (∃ m ∈ past, m.event = .trap .signal) ∧ (∀ m ∈ past, m.event ≠ .trap .call) ∧
        ∃ c s, (arms past).head? = some c ∧ h.controllers[c]? = some s) := by
  refine ⟨run.armedOnce, fun before m after split calls => run.calls split calls, ?_⟩
  have uncalled_iff : h.trap.called = false ↔ ∀ m ∈ past, m.event ≠ .trap .call := by
    rw [← Bool.not_eq_true, run.trapped.called]
    simp only [not_exists, not_and, ne_eq]
  rw [step_call_iff, run.trapped.signalled, uncalled_iff, run.trapped.controller]

end

/-- The signal comes before the trap is armed, which happens for a second controller, then after a pass and
then by a caller. The call of the trap meets a shutdown under way. -/
def armedThrice : List Event :=
  [.registration (.attempt (.ofName "a")), .addController ⟨1000⟩, .trap .signal,
    .shutdown 1 (.request (some ⟨500⟩)), .shutdown 1 (.acquire 0), .startup .call, .startup (.turn 0),
    .trap (.arm 1), .advance 50, .startup (.turn 0), .armAfter 0, .trap .call, .trap (.arm 0),
    .shutdown 1 (.invoke 0 0), .shutdown 1 (.finish 0 0 true), .shutdown 1 (.passBarrier 0),
    .shutdown 1 (.close 0), .shutdown 1 (.close 0), .shutdown 1 (.close 0), .shutdown 1 (.close 0),
    .shutdown 1 (.close 0), .shutdown 1 (.close 0), .shutdown 1 (.acquire 1)]

theorem trap_fires_once_armedThrice :
    ∃ past h before m after s s', (newAt .fresh ⟨50⟩ ⟨60000⟩).run? armedThrice = some (past, h) ∧
      arms past = [1, 0, 0] ∧ h.trap.built = 1 ∧ (trapTrace past).count .built = 1 ∧
      past = before ++ m :: after ∧ m.event = .trap .call ∧ Calls before m after 1 s s' ∧
      s'.calls.map (·.token.deadline) = [500, 1050] ∧ s'.waiting = [1] := by
  obtain ⟨⟨past, h⟩, ran⟩ : ∃ result, (newAt .fresh ⟨50⟩ ⟨60000⟩).run? armedThrice = some result := ⟨_, rfl⟩
  have armed : ((newAt .fresh ⟨50⟩ ⟨60000⟩).run? armedThrice).map (fun result =>
      (arms result.1, result.2.trap.built)) = some ([1, 0, 0], 1) := by
    decide
  have met : ((newAt .fresh ⟨50⟩ ⟨60000⟩).run? armedThrice).bind (fun result => (result.1[11]?).bind fun m =>
      (m.before.controllers[1]?).map fun s =>
        (m.before.clock, s.defaultTimeout, s.calls.map (·.token.deadline), s.waiting)) =
      some (⟨3600000, 50⟩, ⟨1000⟩, [500], []) := by
    decide
  rw [ran] at armed met
  simp only [Option.map_some, Option.some.injEq, Prod.mk.injEq] at armed
  obtain ⟨m, here, met⟩ := Option.bind_eq_some_iff.mp (Option.bind_some .. ▸ met)
  obtain ⟨s, found, met⟩ := Option.map_eq_some_iff.mp met
  simp only [Prod.mk.injEq] at met
  obtain ⟨clock, default, deadlines, waiting⟩ := met
  have calls : m.event = .trap .call := by
    have listed := congrArg (fun events => events[11]?) (events_of_run? ran)
    simp only [List.getElem?_map, here, Option.map_some] at listed
    exact Option.some.inj listed
  obtain ⟨bound, same⟩ := List.getElem?_eq_some_iff.mp here
  have split : past = past.take 11 ++ m :: past.drop 12 := by
    rw [← same, List.getElem_cons_drop, List.take_append_drop]
  obtain ⟨once, fires, -⟩ := trap_fires_once (Run.of_start ran)
  obtain ⟨c, s₀, s', fired⟩ := fires _ m _ split calls
  have first : c = 1 := by
    have whole := armed.1
    rw [split, arms, List.filterMap_append] at whole
    obtain ⟨rest, front⟩ := List.head?_eq_some_iff.mp fired.armed
    rw [arms] at front
    rw [front] at whole
    exact (List.cons.inj whole).1
  subst first
  cases found.symm.trans fired.found
  obtain ⟨-, -, after⟩ := fired.queues 1050 (by rw [clock, default]; decide)
  refine ⟨past, h, _, m, _, s, s', ran, armed.1, armed.2, ?_, split, calls, fired, ?_, ?_⟩
  · rw [once.built, armed.1]
    rfl
  · rw [after, List.map_append, deadlines]
    rfl
  · have one : s.calls.length = 1 := by simpa using congrArg List.length deadlines
    rw [after, waiting, one]
    rfl

end FrameHost.Host
