import FrameHost.Proofs.Host.Sequences
import FrameHost.Proofs.Shutdown.Custody

/-! The tokens that a host gives to frames and finalizers.

A token fires at the deadline of its call, or when the sequence of that call closes, and for no other
reason as long as its holders leave it alone. -/

set_option autoImplicit false

namespace FrameHost.Host
variable {clock : Clock} {startInterval shutdownTimeout : Duration} {past : List Moment} {h : Host}

/-- What a token of a call has to show at a time. -/
structure Vouches (past : List Shutdown.Moment) (now k : Nat) (call : Shutdown.Call) (t : Token) : Prop where
  deadline : ∃ r, (Shutdown.requests past)[k]? = some r ∧ t.deadline = r.deadline
  working : call.Working → (t.fired now = true ↔ t.deadline ≤ now)
  published : (∃ report, .published k report ∈ Shutdown.trace past) → ∀ time, t.fired time = true

/-- The tokens of a call show its deadline. While the call queues or its frames or its finalizer are at
work they fire at that deadline and not before; once its report is published they have fired for good. And
no event changes the tokens of a call but one of that call itself. -/
theorem tokens_fire_in_time (run : Run (newAt clock startInterval shutdownTimeout) past h) {c : Nat}
    {s : Shutdown.Controller} (found : h.controllers[c]? = some s) {tokens : Tokens}
    (handled : Shutdown.Handled (moments c past) tokens) :
    (∀ k call, s.call? k = some call → ∃ i, tokens.family? i = some k) ∧
    (∀ i k, tokens.family? i = some k → ∃ call t, s.call? k = some call ∧ tokens.get? i = some t ∧
      Vouches (moments c past) h.clock.now k call t) ∧
    ∀ before m after held, moments c past = before ++ m :: after → Shutdown.Handled before held →
      ∀ i k, held.family? i = some k → (m.hands held).family? i = some k ∧
        (m.event.call? ≠ some k → (m.hands held).get? i = held.get? i) := by
  obtain ⟨defaultTimeout, run'⟩ := run.controller found
  have kept := run'.kept handled
  refine ⟨fun k call called => ?_, fun i k family => ?_, fun before m after held split handled i k family => ?_⟩
  · exact kept.held k (List.getElem?_eq_some_iff.mp called).1
  · obtain ⟨call, called, token⟩ := kept.get? family
    obtain ⟨r, asked, -, deadline⟩ := run'.request_of_call rfl called
    refine ⟨call, _, called, token, ⟨r, asked, deadline⟩, fun working => ?_, fun ⟨report, published⟩ time => ?_⟩
    · simp [Token.fired, run'.working_uncancelled rfl called working]
    · simp [Token.fired, run'.published_cancelled rfl called published]
  · obtain ⟨earlier, s', step⟩ := run'.split split
    exact (earlier.kept handled).hands step family

/-- A shutdown that has published its report long before its deadline, and one that is under way. -/
def earlyAndLate : List Event :=
  [.registration (.attempt (.ofName "a")), .shutdown 0 (.request (some ⟨500⟩)),
    .shutdown 0 (.acquire 0), .shutdown 0 (.invoke 0 0), .shutdown 0 (.request none), .advance 100,
    .shutdown 0 (.finish 0 0 true), .shutdown 0 (.passBarrier 0), .shutdown 0 (.close 0),
    .shutdown 0 (.close 0), .shutdown 0 (.close 0), .shutdown 0 (.close 0), .shutdown 0 (.close 0),
    .shutdown 0 (.close 0), .shutdown 0 (.acquire 1), .shutdown 0 (.invoke 1 0), .advance 200]

/-- The tokens after a run whose first frame has passed on a clone of its own after four moments. -/
def passedOn (past : List Shutdown.Moment) : Option Tokens :=
  let tokens := (past.take 4).foldl (fun tokens m => m.hands tokens) {}
  (tokens.clone? 1).map fun tokens => (past.drop 4).foldl (fun tokens m => m.hands tokens) tokens

theorem tokens_fire_in_time_earlyAndLate :
    ∃ past h s tokens call t u, (newAt .fresh ⟨50⟩ ⟨60000⟩).run? earlyAndLate = some (past, h) ∧
      h.controllers[0]? = some s ∧ Shutdown.Handled (moments 0 past) tokens ∧ h.clock.now = 200 ∧
      tokens.tokens = [0, 0, 1, 0, 1] ∧ s.call? 1 = some call ∧ call.Working ∧
      tokens.get? 3 = some t ∧ t.deadline = 500 ∧ (∀ time, t.fired time = true) ∧
      tokens.get? 4 = some u ∧ u.deadline = 60000 ∧ u.fired 200 = false := by
  obtain ⟨⟨past, h⟩, ran⟩ : ∃ result, (newAt .fresh ⟨50⟩ ⟨60000⟩).run? earlyAndLate = some result := ⟨_, rfl⟩
  have seen : ((newAt .fresh ⟨50⟩ ⟨60000⟩).run? earlyAndLate).map (fun result =>
      (result.2.clock.now, (passedOn (moments 0 result.1)).map Tokens.tokens,
        (Shutdown.requests (moments 0 result.1)).map Shutdown.Request.deadline,
        (result.2.controllers[0]?).map fun s => s.calls.map (·.phase))) =
      some (200, some [0, 0, 1, 0, 1], [500, 60000],
        some [.ended { graceful := true, frames := 1, deadline := 500 }, .stopping]) := by
    decide
  have told : ((newAt .fresh ⟨50⟩ ⟨60000⟩).run? earlyAndLate).all (fun result =>
      (Shutdown.trace (moments 0 result.1)).contains
        (.published 0 { graceful := true, frames := 1, deadline := 500 })) = true := by
    decide
  rw [ran] at seen told
  simp only [Option.map_some, Option.some.injEq, Prod.mk.injEq, Option.all_some, List.contains_iff_mem] at seen told
  obtain ⟨now, names, deadlines, phases⟩ := seen
  obtain ⟨tokens, passed, names⟩ := Option.map_eq_some_iff.mp names
  obtain ⟨s, found, phases⟩ := Option.map_eq_some_iff.mp phases
  obtain ⟨cloned, clone, rfl⟩ := Option.map_eq_some_iff.mp passed
  have handled : Shutdown.Handled (moments 0 past)
      (((moments 0 past).drop 4).foldl (fun tokens m => m.hands tokens) cloned) := by
    have whole := ((Shutdown.Handled.start.append ((moments 0 past).take 4)).clone clone).append
      ((moments 0 past).drop 4)
    rwa [List.nil_append, List.take_append_drop] at whole
  obtain ⟨-, holders, -⟩ := tokens_fire_in_time (Run.of_start ran) found handled
  have deadline {k time : Nat} {r : Shutdown.Request} (asked : (Shutdown.requests (moments 0 past))[k]? = some r)
      (listed : [500, 60000][k]? = some time) : r.deadline = time := by
    rw [← deadlines, List.getElem?_map, asked] at listed
    exact Option.some.inj listed
  obtain ⟨first, t, -, ended, vouches⟩ := holders 3 0 (by rw [Tokens.family?, names]; rfl)
  obtain ⟨second, u, called, there, vouches'⟩ := holders 4 1 (by rw [Tokens.family?, names]; rfl)
  obtain ⟨r, asked, early⟩ := vouches.deadline
  obtain ⟨r', asked', late⟩ := vouches'.deadline
  have phase : second.phase = .stopping := by
    have listed := congrArg (fun phases => phases[1]?) phases
    have present : s.calls[1]? = some second := called
    simpa [present] using listed
  have working : second.Working := .inr (.inl phase)
  refine ⟨past, h, s, _, second, t, u, ran, found, handled, now, names, called, working, ended,
    early.trans (deadline asked rfl), vouches.published ⟨_, told⟩, there, late.trans (deadline asked' rfl), ?_⟩
  have fires := vouches'.working working
  rw [now, late.trans (deadline asked' rfl)] at fires
  simpa using fires

end FrameHost.Host
