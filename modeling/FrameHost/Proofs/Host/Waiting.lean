import FrameHost.Proofs.Host.Deadline
import FrameHost.Proofs.Host.Starting
import FrameHost.Proofs.Shutdown.Publication

/-! Callers that wait for a shutdown of a host.

A caller looks for the latest report of the host's own controller, and waits as long as there is none. It
may look long after the report was published, and another sequence may have published its own by then. -/

set_option autoImplicit false

namespace FrameHost.Host

/-- The report of a sequence that is through, and the last so far to have published one. -/
structure Latest (past : List Shutdown.Moment) (k : Nat) (report : Shutdown.Report) : Prop where
  latest : (Shutdown.publications past).getLast? = some (k, report)
  /-- Its frames and its finalizer have ended. -/
  account : ∃ timeout asked begun passed, Shutdown.Account past k report timeout asked begun passed
  summarized : .summarized k report.frames report.graceful ∈ Shutdown.trace past
  logClosed : .logClosed k ∈ Shutdown.trace past

section
variable {h h' : Host} {e : Event} {happenings : List Happening} {w : Nat} {report : Shutdown.Report}

theorem Parts.of_reported (parts : Parts h e h' happenings) (told : .reported w report ∈ happenings) :
    e = .look w ∧ h.waits[w]? = some none ∧ h'.waits = h.waits.set w (some report) ∧
      ∃ s, h.controllers[0]? = some s ∧ s.published = some report := by
  have foreign {α : Type} {f : α → Happening} {l : List α} (other : ∀ x, f x ≠ .reported w report) :
      .reported w report ∉ l.map f := by
    intro member
    obtain ⟨x, -, same⟩ := List.mem_map.mp member
    exact other x same
  cases parts with
  | look own published waits =>
    cases List.mem_singleton.mp told
    exact ⟨rfl, waits, rfl, _, own, published⟩
  | registration => exact (foreign nofun told).elim
  | startup => exact (foreign nofun told).elim
  | arm => exact (foreign nofun told).elim
  | called =>
    rcases List.mem_cons.mp told with same | told
    · cases same
    · exact (foreign nofun told).elim
  | shutdown => exact (foreign nofun told).elim
  | _ => cases told

/-- A caller keeps the answer that it was given, and is given one by looking only. -/
theorem Parts.answered_iff (parts : Parts h e h' happenings) :
    h'.waits[w]? = some (some report) ↔
      h.waits[w]? = some (some report) ∨ .reported w report ∈ happenings := by
  by_cases told : ∃ w report, .reported w report ∈ happenings
  · obtain ⟨w', report', told⟩ := told
    obtain ⟨rfl, waits, now, -⟩ := parts.of_reported told
    have only : happenings = [.reported w' report'] := by
      cases parts with
      | arm event => rcases event with same | ⟨_, same, -⟩ <;> cases same
      | look =>
        cases List.mem_singleton.mp told
        rfl
    rw [now, only, List.getElem?_set]
    by_cases same : w' = w
    · subst same
      obtain ⟨bound, none⟩ := List.getElem?_eq_some_iff.mp waits
      simp [bound, none, eq_comm]
    · simp [same, Ne.symm same]
  · have silent : Happening.reported w report ∉ happenings := fun member => told ⟨w, report, member⟩
    simp only [silent, or_false]
    cases parts with
    | wait =>
      rw [List.getElem?_append]
      split
      · rfl
      · rename_i outside
        rw [List.getElem?_eq_none (Nat.le_of_not_lt outside)]
        cases w - h.waits.length <;> simp
    | @look w' s report' => exact (told ⟨w', report', List.mem_singleton.mpr rfl⟩).elim
    | _ => rfl

theorem step_look {s : Shutdown.Controller} (own : h.controllers[0]? = some s)
    (published : s.published = some report) (waits : h.waits[w]? = some none) :
    ∃ h', h.step (.look w) = some (h', [.reported w report]) := by
  simp [step, stepParts, own, published, waits]

end

section
variable {clock : Clock} {startInterval shutdownTimeout : Duration} {past : List Moment} {h : Host}

theorem Run.answered_iff (run : Run (newAt clock startInterval shutdownTimeout) past h) (w : Nat)
    (report : Shutdown.Report) :
    h.waits[w]? = some (some report) ↔ ∃ m ∈ past, .reported w report ∈ m.happenings := by
  induction run with
  | start => simp [newAt, new]
  | @step past h h' e happenings run stepped ih =>
    obtain ⟨parts, metrics, moved, rfl⟩ := Parts.of_step stepped
    change parts.waits[w]? = some (some report) ↔ _
    rw [moved.answered_iff, ih, exists_concat_iff]

theorem Run.own_published (run : Run (newAt clock startInterval shutdownTimeout) past h)
    {s : Shutdown.Controller} (own : h.controllers[0]? = some s) :
    s.published = (Shutdown.publications (moments 0 past)).getLast?.map Prod.snd := by
  obtain ⟨defaultTimeout, run⟩ := run.controller own
  exact run.published_eq

theorem Run.latest (run : Run (newAt clock startInterval shutdownTimeout) past h)
    {s : Shutdown.Controller} (own : h.controllers[0]? = some s) {report : Shutdown.Report}
    (shown : s.published = some report) : ∃ k, Latest (moments 0 past) k report := by
  obtain ⟨defaultTimeout, run'⟩ := run.controller own
  obtain ⟨⟨k, _⟩, latest, rfl⟩ := Option.map_eq_some_iff.mp (run'.published_eq.symm.trans shown)
  obtain ⟨call, published⟩ := run'.of_published rfl (List.mem_of_getLast? latest)
  have account := run'.account_of_published rfl published.found published.closed
  -- Whatever has been published was said and closed in the log before.
  obtain ⟨summarize, closeLog⟩ : .summarize ∈ call.phase.closed ∧ .closeLog ∈ call.phase.closed := by
    rcases Shutdown.Phase.of_publish_closed published.closed with phase | ⟨_, phase⟩ <;>
      simp [phase, Shutdown.Phase.closed]
  have summary := published.closes _ summarize
  rw [published.report] at account
  refine ⟨k, latest, account, ?_, published.closes _ closeLog⟩
  rwa [← published.report]

theorem Run.returns (run : Run (newAt clock startInterval shutdownTimeout) past h)
    {s : Shutdown.Controller} (own : h.controllers[0]? = some s) {k : Nat} {report : Shutdown.Report}
    (published : .published k report ∈ Shutdown.trace (moments 0 past)) :
    ∃ call, s.call? k = some call ∧
      (call.phase = .ended report ∨ call.phase = .closing .release ∧ call.report = report) := by
  obtain ⟨defaultTimeout, run'⟩ := run.controller own
  obtain ⟨call, known⟩ := run'.of_published rfl (Shutdown.mem_publications_iff.mpr published)
  refine ⟨call, known.found, ?_⟩
  rcases Shutdown.Phase.of_publish_closed known.closed with phase | ⟨last, phase⟩
  · exact .inr ⟨phase, known.report⟩
  · obtain ⟨passed, finalizer, finished⟩ :=
      (run'.passed rfl k call known.found).of_late (Shutdown.Phase.late_of_closed known.closed)
    rw [phase, finished.report last phase, known.report]
    exact .inl rfl

/-- What the callers that wait for a shutdown are told. -/
structure Answers (past : List Moment) (h : Host) : Prop where
  answered : ∀ w report, h.waits[w]? = some (some report) ↔ ∃ m ∈ past, .reported w report ∈ m.happenings
  /-- Only the report of a sequence that is through is told, which its call returns as well. -/
  truthful : ∀ before m after w report, past = before ++ m :: after → .reported w report ∈ m.happenings →
    ∃ k s call, Latest (moments 0 before) k report ∧ h.controllers[0]? = some s ∧ s.call? k = some call ∧
      (call.phase = .ended report ∨ call.phase = .closing .release ∧ call.report = report)
  /-- Once there is a report, whoever waits can be told, and so can whoever begins to wait. -/
  prompt : (∃ k report, .published k report ∈ Shutdown.trace (moments 0 past)) →
    (∀ w, h.waits[w]? = some none → ∃ h' report, h.step (.look w) = some (h', [.reported w report])) ∧
    ∃ h' h'' report, h.step .wait = some (h', []) ∧
      h'.step (.look h.waits.length) = some (h'', [.reported h.waits.length report])
  /-- What is shown comes from the sequences in their order, and once there is a report there always is. -/
  order : ((Shutdown.publications (moments 0 past)).map Prod.fst).Sublist (Shutdown.beginnings (moments 0 past)) ∧
    (Shutdown.beginnings (moments 0 past)).Pairwise (· < ·)
  kept : ∃ s, h.controllers[0]? = some s ∧
    s.published = (Shutdown.publications (moments 0 past)).getLast?.map Prod.snd ∧
    ∀ m ∈ past, ∀ s₀, m.before.controllers[0]? = some s₀ → s₀.published ≠ none → s.published ≠ none

theorem waits_answered (run : Run (newAt clock startInterval shutdownTimeout) past h) : Answers past h := by
  obtain ⟨s, own, -⟩ := run.own_controller
  obtain ⟨defaultTimeout, run'⟩ := run.controller own
  refine ⟨run.answered_iff, fun before m after w report split told => ?_, fun ⟨k, report, published⟩ => ?_,
    ⟨run'.publications_sublist, run'.queued.begun⟩, s, own, run'.published_eq, fun m member s₀ own₀ shown none => ?_⟩
  · obtain ⟨next, moved⟩ := run.moment (split ▸ List.mem_append_cons_self : m ∈ past)
    obtain ⟨-, -, -, s₀, own₀, shown⟩ := moved.of_reported told
    obtain ⟨k, latest⟩ := (run.before split).latest own₀ shown
    have published : .published k report ∈ Shutdown.trace (moments 0 past) := by
      have earlier := Shutdown.mem_publications_iff.mp (List.mem_of_getLast? latest.latest)
      rw [split, moments, List.filterMap_append, Shutdown.trace_append]
      exact List.mem_append_left _ earlier
    obtain ⟨call, called, returns⟩ := run.returns own published
    exact ⟨k, s, call, latest, own, called, returns⟩
  · have listed := Shutdown.mem_publications_iff.mpr published
    obtain ⟨⟨j, shown⟩, last⟩ := Option.ne_none_iff_exists'.mp
      (fun none => List.ne_nil_of_mem listed (List.getLast?_eq_none_iff.mp none))
    have there : s.published = some shown := by rw [run'.published_eq, last]; rfl
    refine ⟨fun w waits => (step_look own there waits).imp fun h' stepped => ⟨shown, stepped⟩, ?_⟩
    have waiting : ∃ h', h.step .wait = some (h', []) ∧ h'.controllers[0]? = some s ∧
        h'.waits[h.waits.length]? = some none := by
      simp [step, stepParts, own]
    obtain ⟨h', stepped, own', waits⟩ := waiting
    obtain ⟨h'', looked⟩ := step_look own' there waits
    exact ⟨h', h'', shown, stepped, looked⟩
  · obtain ⟨before, after, split⟩ := List.append_of_mem member
    rw [run'.published_eq, Option.map_eq_none_iff, List.getLast?_eq_none_iff, split, moments,
      List.filterMap_append, Shutdown.publications_append] at none
    rw [(run.before split).own_published own₀, moments, (List.append_eq_nil_iff.mp none).1] at shown
    exact shown rfl

end

/-- A caller that waits from the start and is told just before the first shutdown returns, one that begins to
wait then and is told after the second, which the trap asked for, and one that has not looked yet. -/
def threeWaits : List Event :=
  [.wait, .registration (.attempt (.ofName "a")), .trap (.arm 0), .shutdown 0 (.request (some ⟨500⟩)),
    .trap .signal, .trap .call, .shutdown 0 (.acquire 0), .shutdown 0 (.invoke 0 0),
    .shutdown 0 (.finish 0 0 true), .shutdown 0 (.passBarrier 0), .shutdown 0 (.close 0),
    .shutdown 0 (.close 0), .shutdown 0 (.close 0), .shutdown 0 (.close 0), .shutdown 0 (.close 0), .look 0,
    .shutdown 0 (.close 0), .wait, .shutdown 0 (.acquire 1), .shutdown 0 (.invoke 1 0),
    .shutdown 0 (.finish 1 0 false), .shutdown 0 (.passBarrier 1), .shutdown 0 (.close 1),
    .shutdown 0 (.close 1), .shutdown 0 (.close 1), .shutdown 0 (.close 1), .shutdown 0 (.close 1),
    .shutdown 0 (.close 1), .look 1, .wait]

theorem waits_answered_threeWaits :
    ∃ past h s before m after k call, (newAt .fresh ⟨50⟩ ⟨60000⟩).run? threeWaits = some (past, h) ∧
      h.waits = [some ⟨true, 1, 500⟩, some ⟨false, 1, 60000⟩, none] ∧ past = before ++ m :: after ∧
      .reported 0 ⟨true, 1, 500⟩ ∈ m.happenings ∧ Latest (moments 0 before) k ⟨true, 1, 500⟩ ∧
      h.controllers[0]? = some s ∧ s.call? k = some call ∧
      (call.phase = .ended ⟨true, 1, 500⟩ ∨
        call.phase = .closing .release ∧ call.report = ⟨true, 1, 500⟩) ∧
      ∃ h' report, h.step (.look 2) = some (h', [.reported 2 report]) := by
  obtain ⟨⟨past, h⟩, ran⟩ : ∃ result, (newAt .fresh ⟨50⟩ ⟨60000⟩).run? threeWaits = some result := ⟨_, rfl⟩
  have waits : ((newAt .fresh ⟨50⟩ ⟨60000⟩).run? threeWaits).map (·.2.waits) =
      some [some ⟨true, 1, 500⟩, some ⟨false, 1, 60000⟩, none] := by
    decide
  have told : ((newAt .fresh ⟨50⟩ ⟨60000⟩).run? threeWaits).all (fun result =>
      (Shutdown.trace (moments 0 result.1)).contains (.published 1 ⟨false, 1, 60000⟩)) = true := by
    decide
  rw [ran] at waits told
  simp only [Option.map_some, Option.some.injEq, Option.all_some, List.contains_iff_mem] at waits told
  have answers := waits_answered (Run.of_start ran)
  obtain ⟨m, member, reported⟩ := (answers.answered 0 ⟨true, 1, 500⟩).mp (by rw [waits]; rfl)
  obtain ⟨before, after, split⟩ := List.append_of_mem member
  obtain ⟨k, s, call, latest, own, called, returns⟩ := answers.truthful before m after 0 _ split reported
  exact ⟨past, h, s, before, m, after, k, call, ran, waits, split, reported, latest, own, called, returns,
    (answers.prompt ⟨1, _, told⟩).1 2 (by rw [waits]; rfl)⟩

end FrameHost.Host
