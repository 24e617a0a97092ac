import FrameHost.Config.Validation
import FrameHost.Log.Pattern
import FrameHost.Proofs.Host.Timing

/-! The deadline of a shutdown for which the configuration sets the time.

Validation keeps this time from being zero, but not from being longer than a clock can express. Up to
that limit every such shutdown gets its sequence and its report; beyond it nothing comes of the call. -/

set_option autoImplicit false

namespace FrameHost

theorem Config.shutdownTimeout_pos [Log.Patterns] {config : Config} (accepted : config.errors? = some []) :
    0 < config.lifecycle.shutdownTimeoutSeconds.toNat := by
  obtain ⟨level, -, none⟩ := Option.map_eq_some_iff.mp accepted
  simp only [List.append_eq_nil_iff] at none
  refine Nat.pos_of_ne_zero fun zero => ?_
  have unset : config.lifecycle.shutdownTimeoutSeconds = 0 := UInt64.toNat_inj.mp zero
  simp [lifecycleErrors, unset] at none

theorem Clock.deadline?_ofSeconds (clock : Clock) (seconds : Nat) :
    clock.deadline? (.ofSeconds seconds) =
      if (clock.origin + clock.now) / 1000 + seconds < capacitySeconds then
        some (clock.now + 1000 * seconds)
      else none := by
  unfold deadline?
  rw [Duration.millis_ofSeconds, Nat.add_mul_div_left _ _ (by decide)]

theorem Shutdown.Controller.Step.defaultTimeout {registry : Registry} {clock : Clock}
    {s s' : Shutdown.Controller} {e : Shutdown.Event} {happenings : List Shutdown.Happening}
    (step : Step registry clock s e s' happenings) : s'.defaultTimeout = s.defaultTimeout := by
  cases step with
  | @close k c next => cases next <;> rfl
  | _ => rfl

namespace Host

/-- An event that asks a controller for a shutdown within its default time. -/
inductive Event.AsksDefault (trap : Trap) (c : Nat) : Event → Prop
  | direct : Event.AsksDefault trap c (.shutdown c (.request none))
  | trapped (armed : trap.controller = some c) (signalled : trap.signalled = true)
      (waits : trap.called = false) : Event.AsksDefault trap c (.trap .call)

section
variable {h : Host} {e : Event} {c : Nat} {s s' : Shutdown.Controller}

theorem Event.AsksDefault.asks? (asks : e.AsksDefault h.trap c) :
    e.asks? h.trap c = some (.request none) := by
  cases asks with
  | direct => simp [Event.asks?]
  | trapped armed => simp [Event.asks?, armed]

theorem Event.AsksDefault.kept (asks : e.AsksDefault h.trap c) (k : Nat) :
    e ≠ .shutdown c (.abandon k) := by
  cases asks <;> nofun

theorem Event.AsksDefault.step {more : List Shutdown.Happening} (asks : e.AsksDefault h.trap c)
    (found : h.controllers[c]? = some s)
    (asked : s.step h.registry h.clock (.request none) = some (s', more)) :
    ∃ h' happenings, h.step e = some (h', happenings) ∧ h'.controllers = h.controllers.set c s' ∧
      happenings.filterMap (·.of? c) = more := by
  have own : (more.map (Happening.shutdown c)).filterMap (·.of? c) = more := by
    rw [filterMap_of?, if_pos rfl]
  cases asks with
  | direct =>
    obtain ⟨metrics, stepped⟩ := step_shutdown found asked
    exact ⟨_, _, stepped, rfl, own⟩
  | trapped armed signalled waits =>
    have stepped : ∃ metrics, h.step (.trap .call) = some
        ({ h with
           trap := { h.trap with called := true }, controllers := h.controllers.set c s', metrics },
         .trap (.received c) :: more.map (.shutdown c)) := by
      simp [Host.step, stepParts, stepTrap, Trap.step, armed, signalled, waits, found, asked]
    obtain ⟨metrics, stepped⟩ := stepped
    exact ⟨_, _, stepped, rfl, own⟩

end

section
variable {clock : Clock} {startInterval shutdownTimeout : Duration} {past : List Moment} {h : Host}

theorem Run.own_controller (run : Run (newAt clock startInterval shutdownTimeout) past h) :
    ∃ s, h.controllers[0]? = some s ∧ s.defaultTimeout = shutdownTimeout := by
  induction run with
  | start => exact ⟨_, rfl, rfl⟩
  | @step past h h' e happenings run stepped ih =>
    obtain ⟨s, found, same⟩ := ih
    obtain ⟨parts, metrics, moved, rfl⟩ := Parts.of_step stepped
    have first : 0 < h.controllers.length := (List.getElem?_eq_some_iff.mp found).1
    have bound : 0 < parts.controllers.length := Nat.lt_of_lt_of_le first moved.grown.controllers
    refine ⟨parts.controllers[0], List.getElem?_eq_getElem bound, ?_⟩
    rcases moved.controller_cases (List.getElem?_eq_getElem bound) with ⟨before, -⟩ | ⟨new, -⟩ |
        ⟨s₀, asked, before, -, worked⟩
    · cases found.symm.trans before
      exact same
    · -- A controller that is added comes after those that are there.
      omega
    · cases found.symm.trans before
      rw [(Shutdown.Controller.Step.of_step worked).defaultTimeout, same]

theorem requests_asksDefault {c : Nat} {s : Shutdown.Controller} {e : Event} {happenings : List Happening}
    {deadline : Nat} (asks : e.AsksDefault h.trap c) (found : h.controllers[c]? = some s)
    (made : h.clock.deadline? s.defaultTimeout = some deadline) (more : List Moment) :
    (Shutdown.requests (moments c (past ++ [⟨h, e, happenings⟩] ++ more)))[
        (Shutdown.requests (moments c past)).length]? =
      some { time := h.clock.now, timeout := s.defaultTimeout } := by
  have now : Moment.of? c ⟨h, e, happenings⟩ =
      some ⟨h.registry, h.clock, s, .request none, happenings.filterMap (·.of? c)⟩ := by
    simp [Moment.of?, found, asks.asks?]
  have apart : moments c (past ++ [⟨h, e, happenings⟩] ++ more) =
      moments c (past ++ [⟨h, e, happenings⟩]) ++ moments c more := List.filterMap_append
  rw [apart, moments_concat, now]
  simp [Shutdown.requests, Shutdown.Moment.request?, made]

/-- A shutdown within the default time that nobody gives up can be carried through to its report. -/
theorem Run.reported (run : Run (newAt clock startInterval shutdownTimeout) past h)
    {s : Shutdown.Controller} {e : Event} {h' : Host} {happenings : List Happening} {deadline : Nat}
    (kept : ∀ m ∈ past, ∀ k, m.event ≠ .shutdown 0 (.abandon k)) (found : h.controllers[0]? = some s)
    (asks : e.AsksDefault h.trap 0) (made : h.clock.deadline? s.defaultTimeout = some deadline)
    (stepped : h.step e = some (h', happenings)) :
    ∃ more last report timeout asked begun passed,
      Run (newAt clock startInterval shutdownTimeout) (past ++ [⟨h, e, happenings⟩] ++ more) last ∧
      Shutdown.Account (moments 0 (past ++ [⟨h, e, happenings⟩] ++ more)) s.calls.length report timeout
        asked begun passed ∧
      report.deadline = deadline := by
  obtain ⟨s', found', -⟩ := (run.step stepped).own_controller
  have kept' : ∀ m ∈ past ++ [⟨h, e, happenings⟩], ∀ k, m.event ≠ .shutdown 0 (.abandon k) := by
    intro m member
    rcases List.mem_append.mp member with before | now
    · exact kept m before
    · cases List.mem_singleton.mp now
      exact asks.kept
  obtain ⟨more, last, t, run', -, there, ended⟩ := (run.step stepped).completes found' kept'
  obtain ⟨defaultTimeout, own⟩ := run.controller found
  obtain ⟨defaultTimeout', own'⟩ := run'.controller there
  have count : (Shutdown.requests (moments 0 past)).length = s.calls.length := by
    simpa using congrArg List.length (own.requested rfl).symm
  have request : (Shutdown.requests (moments 0 (past ++ [⟨h, e, happenings⟩] ++ more)))[
      (Shutdown.requests (moments 0 past)).length]? = _ := requests_asksDefault asks found made more
  rw [count] at request
  -- The call that was made here has the number of the calls before it, and so has its request.
  obtain ⟨call, called, -⟩ := own'.call_of_request rfl request
  obtain ⟨report, finished⟩ := ended _ call called
  have told := own'.report_deadline rfl called finished request
  obtain ⟨timeout, asked, begun, passed, account⟩ := own'.account rfl called finished
  refine ⟨more, last, report, timeout, asked, begun, passed, run', account, told.trans ?_⟩
  exact ((Clock.deadline?_eq_some_iff _ _ _).mp made).2.symm

/-- Whoever asks a host with an accepted configuration for a shutdown within the configured time, directly
or by the trap, gets one up to the last deadline that the clock can express, and none beyond it. -/
theorem default_shutdown_answered [Log.Patterns] {config : Config} (accepted : config.errors? = some []) {clock : Clock}
    {past : List Moment} {h : Host} (run : Run { ofConfig config.lifecycle with clock } past h) {e : Event}
    (asks : e.AsksDefault h.trap 0) :
    ∃ s h' happenings, h.controllers[0]? = some s ∧ h.step e = some (h', happenings) ∧
      ((h.clock.origin + h.clock.now) / 1000 + config.lifecycle.shutdownTimeoutSeconds.toNat <
          Clock.capacitySeconds →
        .shutdown 0 .overflowed ∉ happenings ∧
        ((∀ m ∈ past, ∀ k, m.event ≠ .shutdown 0 (.abandon k)) →
          ∃ more last report timeout asked begun passed,
            Run { ofConfig config.lifecycle with clock } (past ++ [⟨h, e, happenings⟩] ++ more) last ∧
            Shutdown.Account (moments 0 (past ++ [⟨h, e, happenings⟩] ++ more)) s.calls.length report
              timeout asked begun passed ∧
            report.deadline = h.clock.now + 1000 * config.lifecycle.shutdownTimeoutSeconds.toNat ∧
            h.clock.now < report.deadline)) ∧
      (Clock.capacitySeconds ≤
          (h.clock.origin + h.clock.now) / 1000 + config.lifecycle.shutdownTimeoutSeconds.toNat →
        .shutdown 0 .overflowed ∈ happenings ∧ h'.controllers = h.controllers) := by
  have positive := Config.shutdownTimeout_pos accepted
  obtain ⟨s, found, default⟩ := Run.own_controller run
  have fixed := h.clock.deadline?_ofSeconds config.lifecycle.shutdownTimeoutSeconds.toNat
  rw [← Config.Lifecycle.shutdownTimeout, ← default] at fixed
  split at fixed
  · rename_i early
    obtain ⟨h', happenings, stepped, -, own⟩ :=
      asks.step found (Shutdown.Controller.Step.request fixed).to_step
    refine ⟨s, h', happenings, found, stepped, fun _ => ⟨fun member => ?_, fun kept => ?_⟩, fun late => ?_⟩
    · have listed := mem_of?_iff.mpr member
      simp [own] at listed
    · obtain ⟨more, last, report, timeout, asked, begun, passed, run', account, told⟩ :=
        Run.reported run kept found asks fixed stepped
      exact ⟨more, last, report, timeout, asked, begun, passed, run', account, told, by omega⟩
    · omega
  · rename_i late
    obtain ⟨h', happenings, stepped, same, own⟩ :=
      asks.step found (Shutdown.Controller.Step.overflow fixed).to_step
    refine ⟨s, h', happenings, found, stepped, fun early => (late early).elim, fun _ => ⟨?_, ?_⟩⟩
    · exact mem_of?_iff.mp (by simp [own])
    · rw [same, controllers_set_self found]

end

theorem default_shutdown_answered_trapped :
    ∃ past h k h' happenings more last report timeout asked begun passed,
      (ofConfig {}).run? [.registration (.attempt (.ofName "a")), .trap (.arm 0), .trap .signal] =
        some (past, h) ∧
      h.step (.trap .call) = some (h', happenings) ∧
      Run (ofConfig {}) (past ++ [⟨h, .trap .call, happenings⟩] ++ more) last ∧
      Shutdown.Account (moments 0 (past ++ [⟨h, .trap .call, happenings⟩] ++ more)) k report timeout asked
        begun passed ∧
      report.deadline = 60000 := by
  obtain ⟨⟨past, h⟩, ran⟩ : ∃ result, (ofConfig {}).run?
      [.registration (.attempt (.ofName "a")), .trap (.arm 0), .trap .signal] = some result := ⟨_, rfl⟩
  have state : ((ofConfig {}).run?
      [.registration (.attempt (.ofName "a")), .trap (.arm 0), .trap .signal]).map
        (fun result => (result.2.clock, result.2.trap)) = some
          (.fresh, { armed := true, built := 1, signalled := true, controller := some 0 }) := by
    decide
  rw [ran] at state
  obtain ⟨clock, trap⟩ := Prod.mk.inj (Option.some.inj state)
  have kept : ∀ m ∈ past, ∀ k, m.event ≠ .shutdown 0 (.abandon k) := by
    intro m member k abandoned
    have listed := event_mem_of_run? ran member
    simp [abandoned] at listed
  have accepted : ({} : Config).errors? = some [] := by decide
  have run : Run (ofConfig {}) past h := .of_start ran
  have asks : (Event.trap .call).AsksDefault h.trap 0 := trap ▸ .trapped rfl rfl rfl
  obtain ⟨s, h', happenings, -, stepped, early, -⟩ := default_shutdown_answered accepted run asks
  rw [clock] at early
  obtain ⟨-, carried⟩ := early (by decide)
  obtain ⟨more, last, report, timeout, asked, begun, passed, run', account, told, -⟩ := carried kept
  exact ⟨past, h, s.calls.length, h', happenings, more, last, report, timeout, asked, begun, passed, ran,
    stepped, run', account, told⟩

/-- The longest time for a shutdown that a TOML document can set. -/
def longest : Config := { lifecycle := { shutdownTimeoutSeconds := 9223372036854775807 } }

theorem longest_overflows :
    longest.errors? = some [] ∧
      ((ofConfig longest.lifecycle).step (.shutdown 0 (.request none))).map Prod.snd =
        some [.shutdown 0 .overflowed] ∧
      ((ofConfig longest.lifecycle).run? [.trap (.arm 0), .trap .signal, .trap .call]).map
        (fun result => result.1.flatMap Moment.happenings) =
          some [.trap .built, .trap (.armed 0), .trap (.received 0), .shutdown 0 .overflowed] :=
  ⟨by decide, rfl, rfl⟩

end Host

end FrameHost
