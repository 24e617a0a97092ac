import Mathlib.Data.List.Sort
import FrameHost.Proofs.Shutdown.Queue
import FrameHost.Proofs.Shutdown.Verdict

/-! The reports that a controller publishes, one by each sequence that gets that far.

Only the latest report can be seen. It is there from the first publication on, and reports are published
in the order in which their sequences began. -/

set_option autoImplicit false

namespace FrameHost.Shutdown

def Happening.published? : Happening → Option (Nat × Report)
  | .published k report => some (k, report)
  | _ => none

def publications (past : List Moment) : List (Nat × Report) := (trace past).filterMap Happening.published?

section
variable {registry : Registry} {finalizer : Option Nat} {k : Nat} {c c' : Call} {e : Event}
  {happenings : List Happening} {past : List Moment} {report : Report}

theorem publications_append (past more : List Moment) :
    publications (past ++ more) = publications past ++ publications more := by
  simp [publications, trace_append]

theorem publications_concat (m : Moment) :
    publications (past ++ [m]) = publications past ++ m.happenings.filterMap Happening.published? := by
  simp [publications]

theorem mem_publications_iff : (k, report) ∈ publications past ↔ .published k report ∈ trace past := by
  rw [publications, List.mem_filterMap]
  constructor
  · rintro ⟨h, member, same⟩
    cases h <;> cases same
    exact member
  · exact fun member => ⟨_, member, rfl⟩

theorem Call.Step.late (step : c.Step registry finalizer k e c' happenings) (late : c.phase.late = true) :
    c'.phase.late = true := by
  cases step with
  | acquire queued => simp [queued, Phase.late] at late
  | work work =>
    cases work with
    | stop => exact late
    | finalize stopping => simp [stopping, Phase.late] at late
    | skip => rfl
    | endFinalizer => rfl
  | close => exact Call.late_close _
  | withdraw queued => simp [queued, Phase.late] at late
  | leave inside => rcases inside with phase | phase <;> simp [phase, Phase.late] at late

theorem Call.Work.not_published (work : c.Work registry finalizer k e c' happenings) :
    happenings.filterMap Happening.published? = [] := by
  have quiet : (Controller.failures k c.stops).filterMap Happening.published? = [] :=
    filterMap_failures fun _ _ => rfl
  cases work with
  | stop found move => cases move <;> rfl
  | finalize => simp [quiet, Happening.published?]
  | skip => exact quiet
  | endFinalizer => rfl

theorem Phase.of_publish_closed {p : Phase} (closed : .publish ∈ p.closed) :
    p = .closing .release ∨ ∃ report, p = .ended report := by
  cases p with
  | closing next => cases next <;> simp [Phase.closed] at closed ⊢
  | ended report => exact .inr ⟨report, rfl⟩
  | _ => simp [Phase.closed] at closed

end

namespace Controller
variable {registry : Registry} {clock : Clock} {s s' start : Controller} {e : Event}
  {happenings : List Happening} {past : List Moment} {k : Nat} {c : Call} {report : Report}
  {defaultTimeout : Duration}

theorem Step.publishes (step : Step registry clock s e s' happenings) :
    (happenings.filterMap Happening.published? = [] ∧ s'.published = s.published) ∨
    ∃ k c, s.call? k = some c ∧ c.phase = .closing .publish ∧
      happenings = [.published k c.report] ∧ s'.published = some c.report := by
  cases step with
  | work found work => exact .inl ⟨work.not_published, rfl⟩
  | @close k c next found closing =>
    cases next with
    | publish => exact .inr ⟨k, c, found, closing, rfl, rfl⟩
    | _ => exact .inl ⟨rfl, rfl⟩
  | _ => exact .inl ⟨rfl, rfl⟩

/-- What can be seen is the latest report. -/
theorem Run.published_eq (run : Run { defaultTimeout } past s) :
    s.published = (publications past).getLast?.map Prod.snd := by
  induction run with
  | start => rfl
  | step run later stepped ih =>
    rw [publications_concat]
    rcases (Step.of_step stepped).publishes with ⟨quiet, same⟩ | ⟨k, c, -, -, rfl, now⟩
    · rw [quiet, List.append_nil, same, ih]
    · simp [Happening.published?, now]

theorem Run.late_of_published (run : Run start past s) (unused : start.calls = []) :
    ∀ k c, s.call? k = some c → (∃ report, .published k report ∈ trace past) → c.phase.late = true := by
  refine Run.calls (P := fun past k c => (∃ report, .published k report ∈ trace past) → c.phase.late = true)
    unused ?_ ?_ ?_ run
  · rintro past m timeout deadline - none - - quiet ⟨report, member⟩
    rw [trace_concat, none, List.append_nil] at member
    exact (quiet _ member rfl).elim
  · rintro past m k c late - quiet ⟨report, member⟩
    rcases List.mem_append.mp (trace_concat past m ▸ member) with before | now
    · exact late ⟨report, before⟩
    · exact (quiet _ now rfl).elim
  · rintro past registry clock before e happenings k c c' late - step ⟨report, member⟩
    rcases List.mem_append.mp (trace_concat past _ ▸ member) with before | now
    · exact step.late (late ⟨report, before⟩)
    · cases step with
      | close => exact Call.late_close _
      | work work =>
        have listed := List.mem_filterMap.mpr ⟨_, now, (rfl : Happening.published? _ = some (k, report))⟩
        simp [work.not_published] at listed
      | withdraw => cases now
      | _ => cases List.mem_singleton.mp now

/-- A report that was published is that of its call, which then has nothing left to do but to end. -/
structure Published (past : List Moment) (s : Controller) (k : Nat) (c : Call) (report : Report) : Prop where
  found : s.call? k = some c
  closed : .publish ∈ c.phase.closed
  report : c.report = report
  closes : ∀ next ∈ c.phase.closed, c.closes k next ∈ trace past
  began : k ∈ beginnings past

theorem Run.of_published (run : Run start past s) (unused : start.calls = [])
    (published : (k, report) ∈ publications past) : ∃ c, Published past s k c report := by
  have member := mem_publications_iff.mp published
  have bound := run.call_lt (.inr ⟨_, member, rfl⟩)
  have found : s.call? k = some s.calls[k] := List.getElem?_eq_getElem bound
  have late := run.late_of_published unused k _ found ⟨report, member⟩
  obtain ⟨m, finalizer, finished⟩ := (run.passed unused k _ found).of_late late
  -- The publication is part of the course, where only a closing step can have left it.
  have listed : .published k report ∈ course past k := by
    simp [course, member, Happening.call?, Happening.stop?]
  have inCourse {h : Happening} (among : h ∈ course past k) : h ∈ trace past := (List.mem_filter.mp among).1
  obtain ⟨next, behind, same⟩ : ∃ next ∈ s.calls[k].phase.closed,
      s.calls[k].closes k next = .published k report := by
    rw [finished.course] at listed
    rcases List.mem_cons.mp listed with same | listed
    · cases same
    · rcases List.mem_append.mp listed with before | closing
      · rcases List.mem_append.mp before with failed | finalized
        · exact absurd failed (not_mem_failures fun i message => Happening.noConfusion)
        · cases finalizer <;> simp [finalizerHistory] at finalized
      · exact List.mem_map.mp closing
  have publish : next = .publish ∧ s.calls[k].report = report := by
    cases next <;> cases same
    exact ⟨rfl, rfl⟩
  refine ⟨_, found, publish.1 ▸ behind, publish.2, fun next closed => inCourse ?_, ?_⟩
  · rw [finished.course]
    exact List.mem_cons_of_mem _ (List.mem_append_right _ (List.mem_map_of_mem closed))
  · refine List.mem_filterMap.mpr ⟨.began k s.calls[k].stops.length s.calls[k].timeout, inCourse ?_, rfl⟩
    rw [finished.course]
    exact List.mem_cons_self ..

theorem Run.publications_sorted (run : Run { defaultTimeout } past s) :
    ((publications past).map Prod.fst).Pairwise (· < ·) := by
  induction run with
  | start => exact .nil
  | @step past s s' registry clock e happenings run later stepped ih =>
    rw [publications_concat]
    rcases (Step.of_step stepped).publishes with ⟨quiet, -⟩ | ⟨k, c, found, closing, rfl, -⟩
    · rw [quiet, List.append_nil]
      exact ih
    · rw [List.map_append]
      refine List.pairwise_append.mpr ⟨ih, List.pairwise_singleton _ _, fun j member l last => ?_⟩
      obtain ⟨⟨_, report⟩, published, rfl⟩ := List.mem_map.mp member
      cases List.mem_singleton.mp last
      -- The one that publishes holds the lock, so whoever has published before came earlier.
      obtain ⟨d, before⟩ := run.of_published rfl published
      have holds := (run.queued.holder k).mpr (by rw [standing?_eq found, closing]; rfl)
      have least := run.queued.latest _ before.began k holds
      refine Nat.lt_of_le_of_ne least fun same => ?_
      subst same
      cases found.symm.trans before.found
      simpa [closing, Phase.closed] using before.closed

/-- Reports are published in the order in which their sequences began. -/
theorem Run.publications_sublist (run : Run { defaultTimeout } past s) :
    ((publications past).map Prod.fst).Sublist (beginnings past) := by
  have sorted := run.publications_sorted
  have listed : (publications past).map Prod.fst ⊆ beginnings past := by
    intro k member
    obtain ⟨⟨_, report⟩, published, rfl⟩ := List.mem_map.mp member
    obtain ⟨c, before⟩ := run.of_published rfl published
    exact before.began
  have distinct : ((publications past).map Prod.fst).Nodup := sorted.imp Nat.ne_of_lt
  exact List.sublist_of_subperm_of_pairwise (List.subperm_of_subset distinct listed)
    (sorted.imp Nat.le_of_lt) (run.queued.begun.imp Nat.le_of_lt)

end Controller

end FrameHost.Shutdown
