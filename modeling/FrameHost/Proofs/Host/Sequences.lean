import FrameHost.Proofs.Host.Run
import FrameHost.Proofs.Shutdown.Order

/-! The shutdown sequences of a host.

Whoever asks for them, the sequences of a controller follow one another in the order in which they
were asked for, and each gives an account of the frames that it found when its turn came. -/

set_option autoImplicit false

namespace FrameHost.Host
variable {clock : Clock} {startInterval shutdownTimeout : Duration} {past : List Moment} {h : Host}

theorem moments_kept {c : Nat} (kept : ∀ m ∈ past, ∀ k, m.event ≠ .shutdown c (.abandon k)) :
    ∀ m ∈ moments c past, ∀ k, m.event ≠ .abandon k := by
  intro m member k abandoned
  obtain ⟨m', inPast, asks, -⟩ := mem_moments member
  rcases Event.of_asks? asks with direct | ⟨-, request⟩
  · exact kept m' inPast k (abandoned ▸ direct)
  · simp [abandoned] at request

/-- As long as nobody gives up a call of a controller, its sequences never overlap and each goes
through its parts in order, whatever else happens to the host. -/
theorem sequences_orderly (run : Run (newAt clock startInterval shutdownTimeout) past h) (c : Nat)
    (kept : ∀ m ∈ past, ∀ k, m.event ≠ .shutdown c (.abandon k)) :
    Shutdown.Orderly (moments c past) := by
  have kept := moments_kept kept
  cases found : h.controllers[c]? with
  | none =>
    have empty := run.moments_eq_nil (List.getElem?_eq_none_iff.mp found)
    rw [empty] at kept ⊢
    have unused : Shutdown.Controller.Run { defaultTimeout := shutdownTimeout } [] _ := .start
    exact unused.orderly kept
  | some s =>
    obtain ⟨defaultTimeout, run⟩ := run.controller found
    exact run.orderly kept

/-- Two frames, a finalizer, and two shutdowns at a time: one by a call in which a frame panics, and
one by the trap in which the finalizer fails. -/
def twoShutdowns : List Event :=
  [.registration (.attempt (.ofName "a")), .registration (.attempt (.ofName "b")),
    .trap (.arm 0), .shutdown 0 (.setFinalizer 7), .shutdown 0 (.request (some ⟨500⟩)),
    .trap .signal, .advance 20, .trap .call, .shutdown 0 (.acquire 0), .shutdown 0 (.invoke 0 0),
    .shutdown 0 (.invoke 0 1), .shutdown 0 (.finish 0 1 true), .shutdown 0 (.panic 0 0 "broken"),
    .shutdown 0 (.passBarrier 0), .shutdown 0 (.endFinalizer 0 .ok), .shutdown 0 (.close 0),
    .shutdown 0 (.close 0), .shutdown 0 (.close 0), .shutdown 0 (.close 0), .shutdown 0 (.close 0),
    .shutdown 0 (.close 0), .registration (.attempt (.ofName "c")), .shutdown 0 (.acquire 1),
    .shutdown 0 (.invoke 1 2), .shutdown 0 (.finish 1 2 true), .shutdown 0 (.invoke 1 1),
    .shutdown 0 (.invoke 1 0), .shutdown 0 (.finish 1 0 true), .shutdown 0 (.finish 1 1 true),
    .shutdown 0 (.passBarrier 1), .shutdown 0 (.endFinalizer 1 (.failed "late")),
    .shutdown 0 (.close 1), .shutdown 0 (.close 1), .shutdown 0 (.close 1), .shutdown 0 (.close 1),
    .shutdown 0 (.close 1), .shutdown 0 (.close 1)]

theorem sequences_orderly_twoShutdowns :
    ∃ past h, (newAt .fresh ⟨50⟩ ⟨60000⟩).run? twoShutdowns = some (past, h) ∧
      (∀ m ∈ past, ∀ k, m.event ≠ .shutdown 0 (.abandon k)) ∧
      (Shutdown.trace (moments 0 past)).map Shutdown.Happening.rank =
        [1, 2, 2, 2, 2, 3, 4, 5, 6, 7, 8, 9, 10, 11, 1, 2, 2, 2, 2, 2, 2, 4, 5, 6, 7, 8, 9, 10, 11] ∧
      Shutdown.Orderly (moments 0 past) := by
  obtain ⟨⟨past, h⟩, ran⟩ : ∃ result, (newAt .fresh ⟨50⟩ ⟨60000⟩).run? twoShutdowns = some result :=
    ⟨_, rfl⟩
  have kept : ∀ m ∈ past, ∀ k, m.event ≠ .shutdown 0 (.abandon k) := by
    intro m member k abandoned
    have listed : m.event ∈ twoShutdowns := events_of_run? ran ▸ List.mem_map_of_mem member
    simp [twoShutdowns, abandoned] at listed
  have traced : ((newAt .fresh ⟨50⟩ ⟨60000⟩).run? twoShutdowns).map (fun result =>
      (Shutdown.trace (moments 0 result.1)).map Shutdown.Happening.rank) = some
        [1, 2, 2, 2, 2, 3, 4, 5, 6, 7, 8, 9, 10, 11, 1, 2, 2, 2, 2, 2, 2, 4, 5, 6, 7, 8, 9, 10, 11] := by
    decide
  rw [ran] at traced
  exact ⟨past, h, ran, kept, Option.some.inj traced,
    sequences_orderly (by simpa using Run.start.of_run? ran) 0 kept⟩

/-- Every sequence that has ended stopped the frames that were registered when its turn came, told
them and the finalizer the deadline fixed by its call, and reported what came of all that. -/
theorem ended_sequence_account (run : Run (newAt clock startInterval shutdownTimeout) past h)
    {c k : Nat} {s : Shutdown.Controller} {call : Shutdown.Call} {report : Shutdown.Report}
    (found : h.controllers[c]? = some s) (called : s.call? k = some call)
    (ended : call.phase = .ended report) :
    ∃ timeout asked begun passed,
      Shutdown.Account (moments c past) k report timeout asked begun passed := by
  obtain ⟨defaultTimeout, run⟩ := run.controller found
  exact run.account rfl called ended

theorem ended_sequence_account_twoShutdowns :
    ∃ past h s call, (newAt .fresh ⟨50⟩ ⟨60000⟩).run? twoShutdowns = some (past, h) ∧
      h.controllers[0]? = some s ∧ s.call? 1 = some call ∧
      call.phase = .ended { graceful := false, frames := 3, deadline := 60020 } ∧
      ∃ timeout asked begun passed, Shutdown.Account (moments 0 past) 1
        { graceful := false, frames := 3, deadline := 60020 } timeout asked begun passed := by
  obtain ⟨⟨past, h⟩, ran⟩ : ∃ result, (newAt .fresh ⟨50⟩ ⟨60000⟩).run? twoShutdowns = some result :=
    ⟨_, rfl⟩
  have phase : (((newAt .fresh ⟨50⟩ ⟨60000⟩).run? twoShutdowns).bind fun result =>
      (result.2.controllers[0]?.bind (·.call? 1)).map (·.phase)) =
        some (.ended { graceful := false, frames := 3, deadline := 60020 }) := by
    decide
  rw [ran] at phase
  obtain ⟨call, found, ended⟩ := Option.map_eq_some_iff.mp phase
  obtain ⟨s, controller, called⟩ := Option.bind_eq_some_iff.mp found
  exact ⟨past, h, s, call, ran, controller, called, ended,
    ended_sequence_account (by simpa using Run.start.of_run? ran) controller called ended⟩

end FrameHost.Host
