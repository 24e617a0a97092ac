import FrameHost.Host.Logged
import FrameHost.Proofs.Host.Sequences
import FrameHost.Proofs.Shutdown.Afresh

/-! No shutdown of a host gets in the way of another.

However its earlier calls ended, a controller without a call under way is as good as new. A call whose
deadline cannot be expressed ends before it touches anything. -/

set_option autoImplicit false

namespace FrameHost

namespace Logged
variable {logged : Logged} {c : Nat} {s : Shutdown.Controller} {timeout : Option Duration}

theorem step_overflow (time : String) (found : logged.host.controllers[c]? = some s)
    (late : logged.host.clock.deadline? (timeout.getD s.defaultTimeout) = none) :
    logged.step time (.shutdown c (.request timeout)) = some (logged, [.shutdown c .overflowed]) := by
  have asked : s.step logged.host.registry logged.host.clock (.request timeout) =
      some (s, [.overflowed]) := (Shutdown.Controller.Step.overflow late).to_step
  simp [step, Host.step, Host.stepParts, found, asked, Host.controllers_set_self found, Host.count, follow,
    Host.Happening.record?, Shutdown.Happening.record?]

theorem step_overflow_trap (time : String) (found : logged.host.controllers[c]? = some s)
    (armed : logged.host.trap.controller = some c) (signalled : logged.host.trap.signalled = true)
    (waits : logged.host.trap.called = false)
    (late : logged.host.clock.deadline? s.defaultTimeout = none) :
    logged.step time (.trap .call) = some
      ({ host := { logged.host with trap := { logged.host.trap with called := true } }
         journal := follow logged.journal time (.trap (.received c)) },
       [.trap (.received c), .shutdown c .overflowed]) := by
  have asked : s.step logged.host.registry logged.host.clock (.request none) =
      some (s, [.overflowed]) := (Shutdown.Controller.Step.overflow late).to_step
  simp [step, Host.step, Host.stepParts, Host.stepTrap, Trap.step, armed, signalled, waits, found, asked,
    Host.controllers_set_self found, Host.count, follow, Host.Happening.record?, Shutdown.Happening.record?]

end Logged

namespace Host

/-- Unless somebody gives them up, the shutdowns of a controller that have ended make no difference to those
that follow, whatever went wrong in them. A shutdown whose deadline cannot be expressed makes no
difference to anything; if the trap asked for it, the trap has called. -/
theorem shutdowns_isolated :
    (∀ {clock : Clock} {startInterval shutdownTimeout : Duration} {past : List Moment} {h : Host} {c : Nat}
      {s : Shutdown.Controller}, Run (newAt clock startInterval shutdownTimeout) past h →
      h.controllers[c]? = some s → (∀ m ∈ past, ∀ k, m.event ≠ .shutdown c (.abandon k)) →
      (∀ k call, s.call? k = some call → ∃ report, call.phase = .ended report) → s.Afresh) ∧
    ∀ (logged : Logged) (time : String) (c : Nat) (s : Shutdown.Controller),
      logged.host.controllers[c]? = some s →
      (∀ timeout : Option Duration,
        logged.host.clock.deadline? (timeout.getD s.defaultTimeout) = none →
        logged.step time (.shutdown c (.request timeout)) =
          some (logged, [.shutdown c .overflowed])) ∧
      (logged.host.trap.controller = some c → logged.host.trap.signalled = true →
        logged.host.trap.called = false → logged.host.clock.deadline? s.defaultTimeout = none →
        logged.step time (.trap .call) = some
          ({ host := { logged.host with trap := { logged.host.trap with called := true } }
             journal := Logged.follow logged.journal time (.trap (.received c)) },
           [.trap (.received c), .shutdown c .overflowed])) := by
  refine ⟨fun run found kept ended => ?_, fun logged time c s found => ⟨fun timeout late => ?_, ?_⟩⟩
  · obtain ⟨defaultTimeout, run⟩ := run.controller found
    exact run.afresh (moments_kept kept) ended
  · exact Logged.step_overflow time found late
  · exact Logged.step_overflow_trap time found

/-- A timeout that no clock can express. -/
def endless : Duration := .ofSeconds Clock.capacitySeconds

/-- Two shutdowns of two frames that nothing goes well in, and two that panic at once. -/
def troubledShutdowns : List Event :=
  [.registration (.attempt (.ofName "a")), .registration (.attempt (.ofName "b")),
    .shutdown 0 (.setFinalizer 7), .shutdown 0 (.request (some endless)),
    .shutdown 0 (.request (some ⟨500⟩)), .shutdown 0 (.acquire 0), .shutdown 0 (.invoke 0 0),
    .shutdown 0 (.invoke 0 1), .shutdown 0 (.finish 0 0 false), .shutdown 0 (.request (some endless)),
    .shutdown 0 (.panic 0 1 "broken"), .shutdown 0 (.passBarrier 0),
    .shutdown 0 (.endFinalizer 0 (.failed "late"))] ++ List.replicate 6 (.shutdown 0 (.close 0)) ++
  [.shutdown 0 (.request none), .shutdown 0 (.acquire 1), .shutdown 0 (.invoke 1 0),
    .shutdown 0 (.invoke 1 1), .shutdown 0 (.finish 1 1 true), .shutdown 0 (.panic 1 0 "broken"),
    .shutdown 0 (.passBarrier 1), .shutdown 0 (.endFinalizer 1 .panicked)] ++
  List.replicate 6 (.shutdown 0 (.close 1))

theorem shutdowns_isolated_troubledShutdowns :
    (∃ past h s, (newAt .fresh ⟨50⟩ ⟨60000⟩).run? troubledShutdowns = some (past, h) ∧
      h.controllers[0]? = some s ∧ s.calls.length = 2 ∧ s.Afresh) ∧
    ∀ time, ∃ logged : Logged,
      logged.host.trap = { armed := true, built := 1, signalled := true, controller := some 0 } ∧
      logged.step time (.shutdown 0 (.request none)) = some (logged, [.shutdown 0 .overflowed]) ∧
      logged.step time (.trap .call) = some
        ({ host := { logged.host with trap := { logged.host.trap with called := true } }
           journal := Logged.follow logged.journal time (.trap (.received 0)) },
         [.trap (.received 0), .shutdown 0 .overflowed]) := by
  constructor
  · obtain ⟨⟨past, h⟩, ran⟩ :
        ∃ result, (newAt .fresh ⟨50⟩ ⟨60000⟩).run? troubledShutdowns = some result := ⟨_, rfl⟩
    have kept : ∀ m ∈ past, ∀ k, m.event ≠ .shutdown 0 (.abandon k) := by
      intro m member k abandoned
      have listed := event_mem_of_run? ran member
      simp [troubledShutdowns, abandoned] at listed
    have phases : ((newAt .fresh ⟨50⟩ ⟨60000⟩).run? troubledShutdowns).bind (fun result =>
        (result.2.controllers[0]?).map fun s => s.calls.map (·.phase)) = some
          [.ended { graceful := false, frames := 2, deadline := 500 },
            .ended { graceful := false, frames := 2, deadline := 60000 }] := by
      decide
    rw [ran] at phases
    obtain ⟨s, found, phases⟩ := Option.map_eq_some_iff.mp phases
    have ended : ∀ k call, s.call? k = some call → ∃ report, call.phase = .ended report := by
      intro k call called
      have listed : call.phase ∈ s.calls.map (·.phase) := List.mem_map_of_mem (List.mem_of_getElem? called)
      rw [phases] at listed
      rcases List.mem_cons.mp listed with first | rest
      · exact ⟨_, first⟩
      · exact ⟨_, List.mem_singleton.mp rest⟩
    have both : s.calls.length = 2 := by simpa using congrArg List.length phases
    exact ⟨past, h, s, ran, found, both,
      shutdowns_isolated.1 (Run.of_start ran) found kept ended⟩
  · intro time
    have late : Clock.fresh.deadline? endless = none := by decide
    obtain ⟨direct, trapped⟩ := shutdowns_isolated.2
      { host := { newAt .fresh ⟨50⟩ endless with
                  trap := { armed := true, built := 1, signalled := true, controller := some 0 } }
        journal := default } time 0 _ rfl
    exact ⟨_, rfl, direct none late, trapped rfl rfl rfl late⟩

end Host

end FrameHost
