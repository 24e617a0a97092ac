import FrameHost.Proofs.Shutdown.Rank
import FrameHost.Proofs.Shutdown.Verdict

/-! The order of what can be noticed of a controller whose calls nobody gives up.

That the trace is sorted says what does not come after a happening. What must have come before it is
read off the phase that its call has reached. -/

set_option autoImplicit false

namespace FrameHost.Shutdown

/-- The order of a trace. Each rule but the first speaks of what comes before a happening. -/
structure Orderly (past : List Moment) : Prop where
  /-- Sequences follow one another, and so do the parts of each. -/
  sorted : (trace past).Pairwise Precedes
  /-- The frames are looked up first of all. -/
  snapshot : ∀ before h after k, trace past = before ++ h :: after → h.call? = some k → 1 < h.rank →
    ∃ m timeout, occurrences past (.acquire k) = [m] ∧ .began k m.registry.size timeout ∈ before
  /-- Nothing follows the stops until each frame was told to stop and has returned or panicked. -/
  barrier : ∀ before h after k, trace past = before ++ h :: after → h.call? = some k → 2 < h.rank →
    ∃ m, occurrences past (.acquire k) = [m] ∧ ∀ i id, m.registry.frames[i]? = some id →
      ∃ deadline ending, before.filter (fun h => h.stop? = some (k, i)) = [.invoked k i deadline, ending] ∧
        (ending = .panicked k i ∨ ∃ graceful, ending = .returned k i graceful id)
  /-- A finalizer is called exactly if one is set when the barrier is passed. -/
  called : ∀ m ∈ past, ∀ k f,
    (∃ deadline, .finalizerCalled k f deadline ∈ m.happenings) ↔
      m.event = .passBarrier k ∧ m.before.finalizer = some f
  /-- A sequence does not close until its barrier is passed and that finalizer has ended. -/
  finalizer : ∀ before h after k, trace past = before ++ h :: after → h.call? = some k → 5 < h.rank →
    ∃ m deadline outcome, occurrences past (.passBarrier k) = [m] ∧
      before.filter (fun h => h.finalizer? = some k) =
        finalizerHistory k deadline (m.before.finalizer.map fun f => (f, outcome))
  /-- No closing step is left out. -/
  closing : ∀ before h after k, trace past = before ++ h :: after → h.call? = some k →
    ∀ next : Closing, next.rank < h.rank → ∃ h' ∈ before, h'.call? = some k ∧ h'.rank = next.rank

section
variable {past : List Moment} {before after : List Happening} {h : Happening} {k : Nat} {c : Call}

theorem filter_before (sorted : (before ++ h :: after).Pairwise Precedes) (concerned : h.call? = some k)
    {p : Happening → Bool} (lower : ∀ a, p a = true → a.call? = some k ∧ a.rank < h.rank) :
    before.filter p = (before ++ h :: after).filter p := by
  -- Nothing from h on qualifies: it would have to come before h.
  have none : (h :: after).filter p = [] := by
    refine List.filter_eq_nil_iff.mpr fun a member chosen => ?_
    obtain ⟨same, less⟩ := lower a chosen
    rcases List.mem_cons.mp member with rfl | later
    · exact Nat.lt_irrefl _ less
    · have precedes := (List.pairwise_cons.mp (List.pairwise_append.mp sorted).2.1).1 a later
      rcases precedes k k concerned same with less | ⟨-, less | ⟨level, -⟩⟩ <;> omega
  rw [List.filter_append, none, List.append_nil]

theorem mem_before (sorted : (before ++ h :: after).Pairwise Precedes) (concerned : h.call? = some k)
    {a : Happening} (member : a ∈ before ++ h :: after) (same : a.call? = some k)
    (less : a.rank < h.rank) : a ∈ before := by
  have kept := filter_before (p := fun b => b = a) sorted concerned fun b chosen => by
    rw [of_decide_eq_true chosen]
    exact ⟨same, less⟩
  have chosen : a ∈ (before ++ h :: after).filter fun b => b = a := by simpa using member
  rw [← kept] at chosen
  exact (List.mem_filter.mp chosen).1

end

theorem finalizerCalled_not_mem_failures {k j f deadline : Nat} {stops : List Stop} :
    .finalizerCalled j f deadline ∉ Controller.failures k stops := not_mem_failures nofun

theorem Call.Work.called_iff {registry : Registry} {finalizer : Option Nat} {k : Nat} {c c' : Call}
    {e : Event} {happenings : List Happening} (work : c.Work registry finalizer k e c' happenings)
    (j f : Nat) :
    (∃ deadline, .finalizerCalled j f deadline ∈ happenings) ↔
      e = .passBarrier j ∧ finalizer = some f := by
  cases work with
  | stop found move => cases move <;> simp
  | finalize _ _ set =>
    simp only [List.mem_append, finalizerCalled_not_mem_failures, List.mem_singleton, false_or, set,
      Happening.finalizerCalled.injEq, Event.passBarrier.injEq, Option.some.injEq]
    constructor
    · rintro ⟨deadline, rfl, rfl, -⟩
      exact ⟨rfl, rfl⟩
    · rintro ⟨rfl, rfl⟩
      exact ⟨_, rfl, rfl, rfl⟩
  | skip _ _ unset => simp [finalizerCalled_not_mem_failures, unset]
  | endFinalizer => simp

theorem Closing.rank_ge (next : Closing) : 6 ≤ next.rank := by
  cases next <;> decide

theorem Phase.mem_closed {phase : Phase} (late : phase.late = true) {next : Closing}
    (behind : next.rank ≤ phase.rank) : next ∈ phase.closed := by
  cases phase with
  | closing current => cases current <;> cases next <;> simp_all [Phase.closed, Phase.rank, Closing.rank]
  | ended => cases next <;> simp [Phase.closed]
  | _ => cases late

theorem rank_of_stop? {h : Happening} {place : Nat × Nat} (stop : h.stop? = some place) :
    h.rank ≤ 2 := by
  cases h <;> simp_all [Happening.stop?, Happening.rank]

theorem rank_of_finalizer? {h : Happening} {k : Nat} (finalizer : h.finalizer? = some k) :
    h.call? = some k ∧ h.rank ≤ 5 := by
  cases h <;> simp_all [Happening.finalizer?, Happening.call?, Happening.rank]

namespace Controller
variable {s : Controller} {past : List Moment} {defaultTimeout : Duration}

theorem Step.called_iff {registry : Registry} {clock : Clock} {s' : Controller} {e : Event}
    {happenings : List Happening} (step : Step registry clock s e s' happenings) (j f : Nat) :
    (∃ deadline, .finalizerCalled j f deadline ∈ happenings) ↔
      e = .passBarrier j ∧ s.finalizer = some f := by
  cases step with
  | work found work => exact work.called_iff j f
  | @close k c next => cases next <;> simp [Call.closes]
  | _ => simp

/-- What a run says of a call that has left something in the trace. -/
structure Underway (past : List Moment) (s : Controller) (k : Nat) (c : Call) (m : Moment) : Prop where
  begun : occurrences past (.acquire k) = [m]
  size : c.stops.length = m.registry.size
  stops : ∀ i id, m.registry.frames[i]? = some id → ∃ stop, c.stops[i]? = some stop ∧
    stopTrace past k i = stop.history k i c.token.deadline id
  passed : Passed past k c
  unqueued : c.phase ≠ .queued
  present : c.phase ≠ .abandoned

theorem Run.underway (run : Run { defaultTimeout } past s)
    (kept : ∀ m ∈ past, ∀ k, m.event ≠ .abandon k) {h : Happening} (member : h ∈ trace past) {k : Nat}
    (concerned : h.call? = some k) : ∃ c m, Underway past s k c m ∧ h.rank ≤ c.phase.rank := by
  have bound := run.call_lt (.inr ⟨h, member, concerned⟩)
  have found : s.call? k = some s.calls[k] := List.getElem?_eq_getElem bound
  have limit := (run.ranked kept).reached h member k _ concerned found
  obtain ⟨n, admitted⟩ := run.admitted kept
  cases run.begun rfl k _ found with
  | never _ _ _ quiet => exact (quiet h member concerned).elim
  | @once m begun size unqueued stops _ =>
    exact ⟨s.calls[k], m,
      ⟨begun, size, stops, run.passed rfl k _ found, unqueued, admitted.unabandoned found⟩, limit⟩

section
variable {k : Nat} {c : Call} {m : Moment} {before after : List Happening} {h : Happening}

theorem Underway.began_mem (underway : Underway past s k c m) :
    .began k m.registry.size c.timeout ∈ trace past := by
  have member : .began k c.stops.length c.timeout ∈ course past k := by
    cases underway.passed with
    | queued phase => exact (underway.unqueued phase).elim
    | abandoned phase => exact (underway.present phase).elim
    | stopping _ course => simp [course]
    | finalizing _ _ _ _ _ _ course => simp [course]
    | late _ _ _ finished => simp [finished.course]
  rw [← underway.size]
  exact (List.mem_filter.mp member).1

theorem Underway.stopped (underway : Underway past s k c m) (far : 2 < c.phase.rank) {i : Nat}
    {id : FrameId} (registered : m.registry.frames[i]? = some id) :
    ∃ deadline ending, stopTrace past k i = [.invoked k i deadline, ending] ∧
      (ending = .panicked k i ∨ ∃ graceful, ending = .returned k i graceful id) := by
  have ended : c.stops.all Stop.ended = true := by
    cases underway.passed with
    | queued phase => exact (underway.unqueued phase).elim
    | abandoned phase => exact (underway.present phase).elim
    | stopping phase =>
      rw [phase] at far
      exact (Nat.lt_irrefl _ far).elim
    | finalizing _ _ _ ended => exact ended
    | late _ _ _ finished => exact finished.ended
  obtain ⟨stop, found, history⟩ := underway.stops i id registered
  rw [history]
  exact ⟨_, Stop.history_of_ended (List.all_eq_true.mp ended stop (List.mem_of_getElem? found)) ..⟩

theorem Underway.late (underway : Underway past s k c m) (far : 5 ≤ c.phase.rank) :
    ∃ m finalizer, occurrences past (.passBarrier k) = [m] ∧
      m.before.finalizer = finalizer.map Prod.fst ∧
      finalizerTrace past k = finalizerHistory k c.token.deadline finalizer ∧
      ∀ next : Closing, next.rank ≤ c.phase.rank → c.closes k next ∈ trace past := by
  cases underway.passed with
  | queued phase => exact (underway.unqueued phase).elim
  | abandoned phase => exact (underway.present phase).elim
  | stopping phase =>
    rw [phase] at far
    exact (Nat.not_le_of_lt (by decide) far).elim
  | finalizing _ _ phase =>
    rw [phase] at far
    exact (Nat.not_le_of_lt (by decide) far).elim
  | late m finalizer phase finished =>
    refine ⟨m, finalizer, finished.barrier, finished.set, finalizer_of_course finished.course,
      fun next behind => ?_⟩
    have member : c.closes k next ∈ Shutdown.course past k := by
      rw [finished.course]
      refine List.mem_cons_of_mem _ (List.mem_append_right _ (List.mem_map_of_mem ?_))
      exact Phase.mem_closed phase behind
    exact (List.mem_filter.mp member).1

end

/-- Every run in which nobody gives up a call has an orderly trace. -/
theorem Run.orderly (run : Run { defaultTimeout } past s)
    (kept : ∀ m ∈ past, ∀ k, m.event ≠ .abandon k) : Orderly past := by
  -- Each rule reads what has happened off the call's phase, and the order puts it before h.
  have sorted := (run.ranked kept).sorted
  refine ⟨sorted, ?_, ?_, fun m member k f => ?_, ?_, ?_⟩
  · intro before h after k split concerned far
    obtain ⟨c, m, underway, -⟩ := run.underway kept (split ▸ List.mem_append_cons_self) concerned
    exact ⟨m, c.timeout, underway.begun,
      mem_before (split ▸ sorted) concerned (split ▸ underway.began_mem) rfl far⟩
  · intro before h after k split concerned far
    obtain ⟨c, m, underway, reached⟩ := run.underway kept (split ▸ List.mem_append_cons_self) concerned
    refine ⟨m, underway.begun, fun i id registered => ?_⟩
    obtain ⟨deadline, ending, stops, outcome⟩ := underway.stopped (by omega) registered
    refine ⟨deadline, ending, ?_, outcome⟩
    rw [← stops, stopTrace, split]
    refine filter_before (split ▸ sorted) concerned fun a chosen => ?_
    have stop := of_decide_eq_true chosen
    exact ⟨call?_of_stop? stop, Nat.lt_of_le_of_lt (rank_of_stop? stop) far⟩
  · obtain ⟨s', step⟩ := run.moment member
    exact step.called_iff k f
  · intro before h after k split concerned far
    obtain ⟨c, m, underway, reached⟩ := run.underway kept (split ▸ List.mem_append_cons_self) concerned
    obtain ⟨passed, finalizer, barrier, set, finalized, -⟩ := underway.late (by omega)
    have kept : before.filter (fun h => h.finalizer? = some k) = finalizerTrace past k := by
      rw [finalizerTrace, split]
      refine filter_before (split ▸ sorted) concerned fun a chosen => ?_
      obtain ⟨same, low⟩ := rank_of_finalizer? (of_decide_eq_true chosen)
      exact ⟨same, by omega⟩
    refine ⟨passed, c.token.deadline, (finalizer.map Prod.snd).getD .ok, barrier, ?_⟩
    rw [kept, finalized, set]
    cases finalizer <;> rfl
  · intro before h after k split concerned next less
    obtain ⟨c, m, underway, reached⟩ := run.underway kept (split ▸ List.mem_append_cons_self) concerned
    have low := next.rank_ge
    obtain ⟨_, _, -, -, -, closed⟩ := underway.late (by omega)
    refine ⟨c.closes k next, ?_, Call.call?_closes next, Call.rank_closes next⟩
    exact mem_before (split ▸ sorted) concerned (split ▸ closed next (by omega))
      (Call.call?_closes next) (by simpa using less)

end Controller

end FrameHost.Shutdown
