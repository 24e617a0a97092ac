import FrameHost.Proofs.Host.Run
import FrameHost.Proofs.Shutdown.Desertion

/-! The sequences of a host when callers give up their shutdowns.

A sequence may begin while frames that an earlier one has told to stop are still at it, but only if that
one was given up at its barrier. Calls that are given up in the queue or during the finalizer leave
nothing behind that could overlap with later sequences. -/

set_option autoImplicit false

namespace FrameHost.Host

open Shutdown (InFlight FinalizerInFlight Deserted)

/-- Whatever callers give up: stops of two sequences, or a stop and a finalizer, are in flight at the same
time only if the stop is one that a call left behind at its barrier. No sequence stops a frame twice. -/
theorem only_deserted_stops_overlap {clock : Clock} {startInterval shutdownTimeout : Duration}
    {past : List Moment} {h : Host} (run : Run (newAt clock startInterval shutdownTimeout) past h) (c : Nat) :
    (∀ j k i i', j ≠ k → InFlight (moments c past) j i → InFlight (moments c past) k i' →
      Deserted (moments c past) j ∨ Deserted (moments c past) k) ∧
    (∀ j k i, FinalizerInFlight (moments c past) k → InFlight (moments c past) j i →
      Deserted (moments c past) j) ∧
    ∀ k i, (Shutdown.trace (moments c past)).countP (fun x => x.invoked? = some (k, i)) ≤ 1 := by
  obtain ⟨defaultTimeout, s, run⟩ :
      ∃ defaultTimeout s, Shutdown.Controller.Run { defaultTimeout } (moments c past) s := by
    cases found : h.controllers[c]? with
    | none =>
      rw [run.moments_eq_nil (List.getElem?_eq_none_iff.mp found)]
      exact ⟨shutdownTimeout, _, .start⟩
    | some s =>
      obtain ⟨defaultTimeout, run⟩ := run.controller found
      exact ⟨defaultTimeout, s, run⟩
  exact ⟨fun j k i i' apart first second => run.stops_apart apart first second,
    fun j k i finalizer stop => run.finalizer_apart finalizer stop, fun k i => run.invoked_once k i⟩

/-- A shutdown that is given up while its only frame stops, and another one that comes after it. -/
def desertedShutdown : List Event :=
  [.registration (.attempt (.ofName "a")), .shutdown 0 (.setFinalizer 7), .shutdown 0 (.request none),
    .shutdown 0 (.acquire 0), .shutdown 0 (.invoke 0 0), .shutdown 0 (.abandon 0), .shutdown 0 (.request none),
    .shutdown 0 (.acquire 1), .shutdown 0 (.invoke 1 0)]

/-- The second stop of the frame ends before the first one, and the finalizer is called. -/
def thenFinalized : List Event :=
  desertedShutdown ++ [.shutdown 0 (.finish 1 0 true), .shutdown 0 (.passBarrier 1)]

theorem only_deserted_stops_overlap_desertedShutdown :
    ∃ past h, (newAt .fresh ⟨50⟩ ⟨60000⟩).run? thenFinalized = some (past, h) ∧
      FinalizerInFlight (moments 0 past) 1 ∧ InFlight (moments 0 past) 0 0 ∧ Deserted (moments 0 past) 0 := by
  obtain ⟨⟨past, h⟩, ran⟩ : ∃ result, (newAt .fresh ⟨50⟩ ⟨60000⟩).run? thenFinalized = some result := ⟨_, rfl⟩
  have overlap : ∀ result ∈ (newAt .fresh ⟨50⟩ ⟨60000⟩).run? thenFinalized,
      FinalizerInFlight (moments 0 result.1) 1 ∧ InFlight (moments 0 result.1) 0 0 := by
    decide
  obtain ⟨finalizer, stop⟩ := overlap _ ran
  exact ⟨past, h, ran, finalizer, stop,
    (only_deserted_stops_overlap (Run.of_start ran) 0).2.1 0 1 0 finalizer stop⟩

/-- A shutdown that is given up makes one frame be stopped twice at a time, and then lets the finalizer
run while the frame still stops. -/
theorem deserted_stop_overlaps :
    (∃ past h, (newAt .fresh ⟨50⟩ ⟨60000⟩).run? desertedShutdown = some (past, h) ∧
      InFlight (moments 0 past) 0 0 ∧ InFlight (moments 0 past) 1 0) ∧
    ∃ past h, (newAt .fresh ⟨50⟩ ⟨60000⟩).run? thenFinalized = some (past, h) ∧
      InFlight (moments 0 past) 0 0 ∧ FinalizerInFlight (moments 0 past) 1 := by
  have twice : ∀ result ∈ (newAt .fresh ⟨50⟩ ⟨60000⟩).run? desertedShutdown,
      InFlight (moments 0 result.1) 0 0 ∧ InFlight (moments 0 result.1) 1 0 := by
    decide
  have beside : ∀ result ∈ (newAt .fresh ⟨50⟩ ⟨60000⟩).run? thenFinalized,
      InFlight (moments 0 result.1) 0 0 ∧ FinalizerInFlight (moments 0 result.1) 1 := by
    decide
  exact ⟨⟨_, _, rfl, twice _ rfl⟩, ⟨_, _, rfl, beside _ rfl⟩⟩

end FrameHost.Host
