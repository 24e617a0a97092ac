import FrameHost.Proofs.Shutdown.Publication

/-! The summaries that sequences leave in a log, and the times that they close it.

Every report that is published stands for one summary and one closing of the log, in this order and with no
other sequence in between. What is there beyond that belongs to the sequence that holds the lock. -/

set_option autoImplicit false

namespace FrameHost.Shutdown

/-- What a sequence says in the end: how many frames it stopped, and whether all went well. -/
structure Summary where
  frames : Nat
  graceful : Bool
  deriving DecidableEq, Repr

inductive Mark where
  | summary (s : Summary)
  | closed
  deriving DecidableEq, Repr

def Happening.mark? : Happening → Option Mark
  | .summarized _ frames graceful => some (.summary { frames, graceful })
  | .logClosed _ => some .closed
  | _ => none

def marks (past : List Moment) : List Mark := (trace past).filterMap Happening.mark?

def Report.summary (report : Report) : Summary := { frames := report.frames, graceful := report.graceful }

def Report.marks (report : Report) : List Mark := [.summary report.summary, .closed]

def summaryOf? (r : Log.Record) : Option Summary :=
  match r.fields with
  | [(_, .count frames)] =>
    ([true, false].find? fun graceful =>
      r.target = (summary graceful frames).target ∧ r.message = (summary graceful frames).message).map
        fun graceful => { frames, graceful }
  | _ => none

theorem summaryOf?_summary (graceful : Bool) (frames : Nat) :
    summaryOf? (summary graceful frames) = some { frames, graceful } := by
  cases graceful
  · simp [summaryOf?, summary]
  · simp [summaryOf?, summary]

theorem Happening.mark?_eq {h : Happening} (unclosed : ∀ k, h ≠ .logClosed k) :
    h.mark? = (h.record?.bind summaryOf?).map .summary := by
  cases h with
  | summarized k frames graceful =>
    rw [record?, Option.bind_some, summaryOf?_summary]
    rfl
  | logClosed k => exact (unclosed k rfl).elim
  | returned k i graceful id => cases graceful <;> rfl
  | finalizerEnded k outcome => cases outcome <;> rfl
  | _ => rfl

theorem Happening.record?_of_mark? {h : Happening} {s : Summary} (marked : h.mark? = some (.summary s)) :
    h.record? = some (Shutdown.summary s.graceful s.frames) := by
  cases h <;> cases marked
  rfl

/-- The marks of a call whose report is still to come. -/
def Call.marks (c : Call) : List Mark :=
  match c.phase with
  | .closing .closeLog => [.summary c.report.summary]
  | .closing .publish => c.report.marks
  | _ => []

section
variable {registry : Registry} {finalizer : Option Nat} {k : Nat} {c c' : Call} {e : Event}
  {happenings : List Happening} {past : List Moment}

theorem Call.Work.unmarked (work : c.Work registry finalizer k e c' happenings) (passed : Passed past k c) :
    c.marks = [] ∧ c'.marks = [] ∧ happenings.filterMap Happening.mark? = [] := by
  have quiet : (Controller.failures k c.stops).filterMap Happening.mark? = [] :=
    filterMap_failures fun _ _ => rfl
  cases work with
  | stop found move =>
    -- A frame that has not ended keeps its sequence at the barrier, unless the call was given up.
    have still : c.phase = .stopping ∨ c.phase = .abandoned := passed.pending found move.pending.1
    refine ⟨?_, ?_, by cases move <;> rfl⟩
    · rcases still with phase | phase <;> simp [Call.marks, phase]
    · rcases still with phase | phase <;> simp [Call.marks, phase]
  | finalize stopping =>
    exact ⟨by simp [Call.marks, stopping], by simp [Call.marks], by simp [quiet, Happening.mark?]⟩
  | skip stopping => exact ⟨by simp [Call.marks, stopping], by simp [Call.marks], quiet⟩
  | endFinalizer finalizing => exact ⟨by simp [Call.marks, finalizing], by simp [Call.marks], rfl⟩

end

namespace Controller
variable {registry : Registry} {clock : Clock} {s s' start : Controller} {e : Event}
  {happenings : List Happening} {past : List Moment} {k : Nat} {c c' : Call}
  {defaultTimeout : Duration}

/-- The marks of the sequence that holds the lock, as long as it has not published. -/
def unpublished (s : Controller) : List Mark := ((s.holder.bind s.call?).map Call.marks).getD []

theorem unpublished_free (free : s.holder = none) : s.unpublished = [] := by
  simp [unpublished, free]

theorem unpublished_held (holds : s.holder = some k) (found : s.call? k = some c) :
    s.unpublished = c.marks := by
  simp [unpublished, holds, found]

theorem unpublished_put (found : s.call? k = some c) (calls : s'.calls = s.calls.set k c')
    (holds : s'.holder = some k) : s'.unpublished = c'.marks := by
  refine unpublished_held holds ?_
  rw [call?, calls]
  exact List.getElem?_set_self (List.getElem?_eq_some_iff.mp found).1

theorem unpublished_same (holder : s'.holder = s.holder)
    (calls : ∀ k, s.holder = some k → (s'.call? k).map Call.marks = (s.call? k).map Call.marks) :
    s'.unpublished = s.unpublished := by
  unfold unpublished
  rw [holder]
  cases holds : s.holder with
  | none => rfl
  | some k =>
    have same := calls k holds
    rw [Option.bind_some, Option.bind_some, same]

theorem unpublished_setCall (found : s.call? k = some c) (same : c'.marks = c.marks) :
    (s.setCall k c').unpublished = s.unpublished := by
  refine unpublished_same rfl fun j _ => ?_
  rw [call?_setCall found]
  split
  · rename_i here
    rw [← here, found, Option.map_some, Option.map_some, same]
  · rfl

theorem Step.marks (step : Step registry clock s e s' happenings) (run : Run { defaultTimeout } past s) :
    s.unpublished ++ happenings.filterMap Happening.mark? =
      (happenings.filterMap Happening.published?).flatMap (fun p => p.2.marks) ++ s'.unpublished := by
  have queued := run.queued
  cases step with
  | request =>
    refine (List.append_nil _).trans (Eq.symm (unpublished_same rfl fun k holds => ?_))
    -- The holder is one of the calls that there were before.
    have inside := (queued.holder k).mp holds
    have bound : k < s.calls.length := lt_of_standing? (by simp [inside])
    exact congrArg (Option.map Call.marks) (List.getElem?_append_left bound)
  | overflow => exact List.append_nil _
  | @acquire k c found free first waits =>
    have begun : unpublished { s.setCall k (c.begun registry.size) with
        holder := some k, waiting := s.waiting.tail } = (c.begun registry.size).marks :=
      unpublished_put found rfl rfl
    rw [unpublished_free free, begun]
    rfl
  | work found work =>
    obtain ⟨before, after, quiet⟩ := work.unmarked (run.passed rfl _ _ found)
    rw [quiet, work.not_published, List.append_nil, List.flatMap_nil, List.nil_append,
      unpublished_setCall found (after.trans before.symm)]
  | @close k c next found closing =>
    -- Only the holder of the lock closes, so that the marks that are left are its own.
    have holds := (queued.holder k).mpr (by rw [standing?_eq found, closing]; rfl)
    have worked : (s.closeStep k c next).1.calls = s.calls.set k (c.close next) := calls_closeStep s k c next
    rw [unpublished_held holds found]
    cases next with
    | release =>
      have unmarked : c.marks = [] := by simp [Call.marks, closing]
      rw [unpublished_free rfl, unmarked]
      rfl
    | cancel | count | summarize =>
      have unmarked : c.marks = [] := by simp [Call.marks, closing]
      rw [unpublished_put found worked holds, unmarked]
      rfl
    | closeLog =>
      have marked : c.marks = [.summary c.report.summary] := by simp [Call.marks, closing]
      rw [unpublished_put found worked holds, marked]
      rfl
    | publish =>
      have marked : c.marks = c.report.marks := by simp [Call.marks, closing]
      rw [unpublished_put found worked holds, marked]
      simp [List.filterMap_cons, Call.closes, Happening.mark?, Happening.published?, Call.marks, Call.close]
  | setFinalizer => exact List.append_nil _
  | @withdraw k c found waits =>
    have unmarked : ({ c with phase := .abandoned } : Call).marks = c.marks := by simp [Call.marks, waits]
    exact (List.append_nil _).trans (unpublished_setCall found unmarked).symm
  | @leave k c found inside =>
    have holds := (queued.holder k).mpr <| by
      rw [standing?_eq found]
      rcases inside with phase | phase <;> rw [phase] <;> rfl
    have unmarked : c.marks = [] := by rcases inside with phase | phase <;> simp [Call.marks, phase]
    rw [unpublished_held holds found, unmarked]
    rfl

/-- What a run has marked is what its reports stand for, with the marks of the sequence that is closing. -/
theorem Run.marks_eq (run : Run { defaultTimeout } past s) :
    marks past = (publications past).flatMap (fun p => p.2.marks) ++ s.unpublished := by
  induction run with
  | start => rfl
  | @step past s s' registry clock e happenings run later stepped ih =>
    have step := (Step.of_step stepped).marks run
    have grown : marks (past ++ [⟨registry, clock, s, e, happenings⟩]) =
        marks past ++ happenings.filterMap Happening.mark? := by
      simp [Shutdown.marks]
    rw [grown, ih, publications_concat, List.flatMap_append, List.append_assoc, List.append_assoc, step]

theorem Run.published_iff (run : Run start past s) (unused : start.calls = [])
    (free : ∀ k c, s.call? k = some c → c.phase ≠ .closing .release) {report : Report} :
    (k, report) ∈ publications past ↔ ∃ c, s.call? k = some c ∧ c.phase = .ended report := by
  constructor
  · intro member
    obtain ⟨c, before⟩ := run.of_published unused member
    refine ⟨c, before.found, ?_⟩
    rcases Phase.of_publish_closed before.closed with releasing | ⟨other, ended⟩
    · exact (free k c before.found releasing).elim
    · obtain ⟨m, finalizer, finished⟩ := (run.passed unused k c before.found).of_late (by rw [ended]; rfl)
      rw [ended, finished.report other ended, before.report]
  · rintro ⟨c, found, ended⟩
    obtain ⟨_, _, _, _, account⟩ := run.account unused found ended
    exact mem_publications_iff.mpr account.published

end Controller

end FrameHost.Shutdown
