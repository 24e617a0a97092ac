import FrameHost.Startup

/-! What an event does to passes and starts, case by case, and the history of each start.

A start is dispatched, its run begins, and it ends. The trace holds exactly as much of this as the phase
of the run says, so that what the trace is silent about has not happened. -/

set_option autoImplicit false

namespace FrameHost.Startup

inductive Pass.Due (now : Nat) (pass : Pass) : Prop where
  | looking (stage : pass.stage = .looking)
  | woken {wake : Nat} (stage : pass.stage = .pausing wake) (elapsed : wake ≤ now)

/-- An event of the starts of a host. -/
inductive Starts.Step (registry : Registry) (running : Nat → Bool) (interval : Duration) (now : Nat)
    (s : Starts) : Event → Starts → List Happening → Prop where
  | call : Starts.Step registry running interval now s .call
      { s with passes := s.passes ++ [{ remaining := List.range registry.size }] } []
  | finish {p : Nat} {pass : Pass} (found : s.passes[p]? = some pass) (due : pass.Due now)
      (through : pass.remaining = []) :
      Starts.Step registry running interval now s (.turn p)
        (s.setPass p { pass with stage := .returned }) [.returned p pass.dispatched]
  | skip {p frame : Nat} {pass : Pass} {rest : List Nat} {id : FrameId}
      (found : s.passes[p]? = some pass) (due : pass.Due now) (looks : pass.remaining = frame :: rest)
      (registered : registry.frames[frame]? = some id) (busy : running frame = true) :
      Starts.Step registry running interval now s (.turn p)
        (s.setPass p { pass with remaining := rest, stage := .looking }) [.skipped p frame id]
  | dispatch {p frame : Nat} {pass : Pass} {rest : List Nat} {id : FrameId}
      (found : s.passes[p]? = some pass) (due : pass.Due now) (looks : pass.remaining = frame :: rest)
      (registered : registry.frames[frame]? = some id) (idle : running frame = false) :
      Starts.Step registry running interval now s (.turn p)
        { s.setPass p
            { remaining := rest
              dispatched := pass.dispatched + 1
              stage := .pausing (now + interval.millis) } with
          runs := s.runs ++ [⟨frame, .spawned⟩] }
        [.dispatched p s.runs.length frame id]
  | beginRun {r : Nat} {run : Run} (found : s.runs[r]? = some run) (spawned : run.phase = .spawned) :
      Starts.Step registry running interval now s (.beginRun r)
        { s with runs := s.runs.set r { run with phase := .begun } } [.runBegan r run.frame]
  | endRun {r : Nat} {run : Run} (found : s.runs[r]? = some run) (begun : run.phase = .begun) :
      Starts.Step registry running interval now s (.endRun r)
        { s with runs := s.runs.set r { run with phase := .ended } } [.runEnded r run.frame]

def Happening.run? : Happening → Option Nat
  | .dispatched _ r _ _ | .runBegan r _ | .runEnded r _ => some r
  | _ => none

def course (trace : List Happening) (r : Nat) : List Happening := trace.filter fun h => h.run? = some r

/-- What has come of a start after it was dispatched. -/
def Run.history (r : Nat) (run : Run) : List Happening :=
  match run.phase with
  | .spawned => []
  | .begun => [.runBegan r run.frame]
  | .ended => [.runBegan r run.frame, .runEnded r run.frame]

section
variable {registry : Registry} {running : Nat → Bool} {interval : Duration} {now : Nat} {s s' : Starts}
  {e : Event} {happenings trace : List Happening} {r : Nat}

theorem Starts.Step.of_turn {p : Nat} {pass : Pass} (found : s.passes[p]? = some pass)
    (due : pass.Due now)
    (turned : s.turn registry running interval now p pass = some (s', happenings)) :
    Starts.Step registry running interval now s (.turn p) s' happenings := by
  unfold Starts.turn at turned
  split at turned
  · rename_i through
    cases turned
    exact .finish found due through
  · rename_i frame rest looks
    obtain ⟨id, registered, turned⟩ := Option.bind_eq_some_iff.mp turned
    split at turned
    · rename_i busy
      cases turned
      exact .skip found due looks registered busy
    · rename_i idle
      cases turned
      exact .dispatch found due looks registered (Bool.eq_false_iff.mpr idle)

theorem Starts.Step.of_step
    (stepped : s.step registry running interval now e = some (s', happenings)) :
    Starts.Step registry running interval now s e s' happenings := by
  cases e with
  | call =>
    cases stepped
    exact .call
  | turn p =>
    obtain ⟨pass, found, stepped⟩ := Option.bind_eq_some_iff.mp stepped
    split at stepped
    · rename_i looking
      exact .of_turn found (.looking looking) stepped
    · rename_i wake pausing
      split at stepped
      · rename_i elapsed
        exact .of_turn found (.woken pausing elapsed) stepped
      · cases stepped
    · cases stepped
  | beginRun r =>
    obtain ⟨run, found, stepped⟩ := Option.bind_eq_some_iff.mp stepped
    split at stepped
    · rename_i spawned
      cases stepped
      exact .beginRun found spawned
    · cases stepped
  | endRun r =>
    obtain ⟨run, found, stepped⟩ := Option.bind_eq_some_iff.mp stepped
    split at stepped
    · rename_i begun
      cases stepped
      exact .endRun found begun
    · cases stepped

/-- At its turn a frame is started exactly if it is not running. -/
theorem Starts.Step.dispatched_iff {p frame : Nat} {pass : Pass} {rest : List Nat}
    (step : Starts.Step registry running interval now s (.turn p) s' happenings)
    (found : s.passes[p]? = some pass) (looks : pass.remaining = frame :: rest) :
    (∃ r id, .dispatched p r frame id ∈ happenings) ↔ running frame = false := by
  cases step with
  | finish found' due through =>
    cases found.symm.trans found'
    cases looks.symm.trans through
  | skip found' due looks' registered busy =>
    cases found.symm.trans found'
    cases looks.symm.trans looks'
    simp [busy]
  | dispatch found' due looks' registered idle =>
    cases found.symm.trans found'
    cases looks.symm.trans looks'
    simp [idle]

theorem Starts.Step.idle_of_dispatched {p i : Nat} {id : FrameId}
    (step : Starts.Step registry running interval now s e s' happenings)
    (dispatched : .dispatched p r i id ∈ happenings) : running i = false := by
  cases step with
  | dispatch found due looks registered idle =>
    cases List.mem_singleton.mp dispatched
    exact idle
  | call => cases dispatched
  | _ => cases List.mem_singleton.mp dispatched

end

def Happening.started? : Happening → Option String
  | .dispatched _ _ _ id => some id.key
  | _ => none

def Starts.frames (s : Starts) : List Nat := s.runs.map Run.frame

section
variable {registry : Registry} {running : Nat → Bool} {interval : Duration} {now : Nat} {s s' : Starts}
  {e : Event} {happenings : List Happening}

theorem Starts.frames_set {r : Nat} {run run' : Run} (found : s.runs[r]? = some run)
    (same : run'.frame = run.frame) : Starts.frames { s with runs := s.runs.set r run' } = s.frames := by
  obtain ⟨bound, here⟩ := List.getElem?_eq_some_iff.mp found
  have again : (s.runs.map Run.frame).set r run'.frame = s.runs.map Run.frame := by
    rw [same, ← here, ← List.getElem_map Run.frame, List.set_getElem_self]
    simpa using bound
  exact List.map_set.trans again

theorem Starts.Step.started (step : Starts.Step registry running interval now s e s' happenings) :
    s'.frames = s.frames ∧ happenings.filterMap Happening.started? = [] ∨
    ∃ i id, registry.frames[i]? = some id ∧ s'.frames = s.frames ++ [i] ∧
      happenings.filterMap Happening.started? = [id.key] := by
  cases step with
  | dispatch found due looks registered => exact .inr ⟨_, _, registered, List.map_append, rfl⟩
  | beginRun found => exact .inl ⟨frames_set found rfl, rfl⟩
  | endRun found => exact .inl ⟨frames_set found rfl, rfl⟩
  | _ => exact .inl ⟨rfl, rfl⟩

end

/-- The trace of the starts holds what has come of each, and nothing of a start that is still to come. -/
structure Traced (trace : List Happening) (s : Starts) : Prop where
  bound : ∀ h ∈ trace, ∀ r, h.run? = some r → r < s.runs.length
  known : ∀ r run, s.runs[r]? = some run →
    ∃ p id, course trace r = .dispatched p r run.frame id :: run.history r

section
variable {registry : Registry} {running : Nat → Bool} {interval : Duration} {now : Nat} {s s' : Starts}
  {e : Event} {happenings trace : List Happening} {r : Nat}

theorem course_append : course (trace ++ happenings) r = course trace r ++ course happenings r := by
  simp [course]

theorem Traced.silent (traced : Traced trace s) (runs : s'.runs = s.runs)
    (silent : ∀ h ∈ happenings, h.run? = none) : Traced (trace ++ happenings) s' where
  bound h member r concerns := by
    rw [runs]
    rcases List.mem_append.mp member with before | last
    · exact traced.bound h before r concerns
    · cases (silent h last).symm.trans concerns
  known r run found := by
    have none : course happenings r = [] := by
      refine List.filter_eq_nil_iff.mpr fun h member => ?_
      simp [silent h member]
    rw [course_append, none, List.append_nil]
    exact traced.known r run (runs ▸ found)

theorem Traced.moved (traced : Traced trace s) {run run' : Run} {h : Happening}
    (found : s.runs[r]? = some run) (concerns : h.run? = some r)
    (same : run'.frame = run.frame) (history : run'.history r = run.history r ++ [h]) :
    Traced (trace ++ [h]) { s with runs := s.runs.set r run' } where
  bound x member j other := by
    rw [List.length_set]
    rcases List.mem_append.mp member with before | last
    · exact traced.bound x before j other
    · cases List.mem_singleton.mp last
      cases concerns.symm.trans other
      exact (List.getElem?_eq_some_iff.mp found).1
  known j run₁ found₁ := by
    rw [course_append]
    by_cases own : r = j
    · subst own
      rw [List.getElem?_set_self (List.getElem?_eq_some_iff.mp found).1] at found₁
      cases found₁
      obtain ⟨p, id, before⟩ := traced.known r run found
      have last : course [h] r = [h] := by simp [course, concerns]
      exact ⟨p, id, by rw [before, last, same, history, List.cons_append]⟩
    · rw [List.getElem?_set_ne own] at found₁
      have none : course [h] j = [] := by simp [course, concerns, own]
      rw [none, List.append_nil]
      exact traced.known j run₁ found₁

theorem Traced.dispatched (traced : Traced trace s) {p frame : Nat} {id : FrameId}
    (runs : s'.runs = s.runs ++ [⟨frame, .spawned⟩]) :
    Traced (trace ++ [.dispatched p s.runs.length frame id]) s' where
  bound h member r concerns := by
    rw [runs, List.length_append, List.length_singleton]
    rcases List.mem_append.mp member with before | last
    · exact Nat.lt_succ_of_lt (traced.bound h before r concerns)
    · cases List.mem_singleton.mp last
      cases concerns
      exact Nat.lt_succ_self _
  known r run found := by
    rw [runs] at found
    rw [course_append]
    rcases Nat.lt_or_ge r s.runs.length with before | new
    · rw [List.getElem?_append_left before] at found
      have none : course [.dispatched p s.runs.length frame id] r = [] := by
        simp [course, Happening.run?, Nat.ne_of_gt before]
      rw [none, List.append_nil]
      exact traced.known r run found
    · rw [List.getElem?_append_right new] at found
      obtain ⟨bound, same⟩ := List.getElem?_eq_some_iff.mp found
      have last : r = s.runs.length := by
        rw [List.length_singleton] at bound
        omega
      subst last
      have none : course trace s.runs.length = [] := by
        refine List.filter_eq_nil_iff.mpr fun h member concerns => ?_
        exact Nat.lt_irrefl _ (traced.bound h member _ (of_decide_eq_true concerns))
      simp only [Nat.sub_self, List.getElem_cons_zero] at same
      subst same
      refine ⟨p, id, ?_⟩
      rw [none, List.nil_append]
      simp [course, Happening.run?, Run.history]

theorem Traced.step (traced : Traced trace s)
    (step : Starts.Step registry running interval now s e s' happenings) :
    Traced (trace ++ happenings) s' := by
  cases step with
  | call => exact traced.silent rfl nofun
  | finish => exact traced.silent rfl (List.forall_mem_singleton.mpr rfl)
  | skip => exact traced.silent rfl (List.forall_mem_singleton.mpr rfl)
  | dispatch => exact traced.dispatched rfl
  | beginRun found spawned =>
    exact traced.moved found rfl rfl (by simp [Run.history, spawned])
  | endRun found begun =>
    exact traced.moved found rfl rfl (by simp [Run.history, begun])

theorem Traced.of_dispatched (traced : Traced trace s) {p i : Nat} {id : FrameId}
    (dispatched : .dispatched p r i id ∈ trace) : ∃ run, s.runs[r]? = some run ∧ run.frame = i ∧
      course trace r = .dispatched p r i id :: run.history r := by
  have bound : r < s.runs.length := traced.bound _ dispatched r rfl
  have found : s.runs[r]? = some s.runs[r] := List.getElem?_eq_getElem bound
  obtain ⟨p', id', known⟩ := traced.known r _ found
  have listed : .dispatched p r i id ∈ course trace r := by simp [course, dispatched, Happening.run?]
  rw [known] at listed
  -- What follows the dispatch in the course of a start is not another one.
  have first : Happening.dispatched p r i id = .dispatched p' r s.runs[r].frame id' := by
    rcases List.mem_cons.mp listed with same | later
    · exact same
    · cases phase : s.runs[r].phase <;> simp [Run.history, phase] at later
  exact ⟨_, found, by injection first with _ _ frame; exact frame.symm, first ▸ known⟩

/-- A start whose frame has no run under way has not begun, or it has come to its end. -/
theorem Traced.settled (traced : Traced trace s) {i : Nat}
    (idle : ∀ run ∈ s.runs, run.frame = i → run.phase ≠ .begun) {p : Nat} {id : FrameId}
    (dispatched : .dispatched p r i id ∈ trace) :
    course trace r = [.dispatched p r i id] ∨
      course trace r = [.dispatched p r i id, .runBegan r i, .runEnded r i] := by
  obtain ⟨run, found, rfl, known⟩ := traced.of_dispatched dispatched
  cases phase : run.phase with
  | spawned => exact .inl (by simp [known, Run.history, phase])
  | begun => exact (idle _ (List.mem_of_getElem? found) rfl phase).elim
  | ended => exact .inr (by simp [known, Run.history, phase])

end

end FrameHost.Startup
