import FrameHost.Proofs.Shutdown.Lock

/-! The queue for the lock of a controller whose callers may give up.

Calls queue in the order in which they are made, a call that is given up leaves the queue, and only the
head of the queue is let in, when nobody holds the lock. So calls are let in in the order in which they
were made, and whoever is let in finds every earlier call ended or given up. -/

set_option autoImplicit false

namespace FrameHost.Shutdown

/-- How a call stands with the lock. -/
inductive Standing where
  | queued | inside | ended | abandoned
  deriving DecidableEq

def Phase.standing : Phase → Standing
  | .queued => .queued
  | .stopping | .finalizing | .closing _ => .inside
  | .ended _ => .ended
  | .abandoned => .abandoned

def Happening.began? : Happening → Option Nat
  | .began k _ _ => some k
  | _ => none

/-- The calls that were let in, in this order. -/
def beginnings (past : List Moment) : List Nat := (trace past).filterMap Happening.began?

/-- The queue, the holder, the standing of each call, and the calls that were let in so far. -/
structure Lined (queue : List Nat) (lock : Option Nat) (standing : Nat → Option Standing)
    (entered : List Nat) : Prop where
  sorted : queue.Pairwise (· < ·)
  waiting : ∀ k, k ∈ queue ↔ standing k = some .queued
  holder : ∀ k, lock = some k ↔ standing k = some .inside
  begun : entered.Pairwise (· < ·)
  behind : ∀ j ∈ entered, ∀ k ∈ queue, j < k
  latest : ∀ j ∈ entered, ∀ k, lock = some k → j ≤ k

section
variable {queue entered : List Nat} {lock : Option Nat} {standing standing' : Nat → Option Standing}
  {k n : Nat}

theorem Lined.request (lined : Lined queue lock standing entered)
    (made : ∀ j, standing j ≠ none → j < n) (known : ∀ j ∈ entered, j < n)
    (now : ∀ j, standing' j = if n = j then some .queued else standing j) :
    Lined (queue ++ [n]) lock standing' entered := by
  have earlier : ∀ j ∈ queue, j < n := by
    intro j member
    apply made j
    rw [(lined.waiting j).mp member]
    nofun
  refine ⟨?_, fun j => ?_, fun j => ?_, lined.begun, fun j old k member => ?_, lined.latest⟩
  · refine List.pairwise_append.mpr ⟨lined.sorted, List.pairwise_singleton _ _, fun j member l last => ?_⟩
    rw [List.mem_singleton.mp last]
    exact earlier j member
  · rw [now, List.mem_append, List.mem_singleton, lined.waiting]
    by_cases same : n = j
    · simp [same]
    · simp [same, Ne.symm same]
  · rw [now, lined.holder]
    by_cases same : n = j
    · subst same
      have none : standing n = none :=
        Classical.byContradiction fun there => Nat.lt_irrefl _ (made n there)
      simp [none]
    · simp [same]
  · rcases List.mem_append.mp member with before | last
    · exact lined.behind j old k before
    · rw [List.mem_singleton.mp last]
      exact known j old

theorem Lined.acquire (lined : Lined (k :: queue) none standing entered)
    (now : ∀ j, standing' j = if k = j then some .inside else standing j) :
    Lined queue (some k) standing' (entered ++ [k]) := by
  have ahead := (List.pairwise_cons.mp lined.sorted).1
  refine ⟨(List.pairwise_cons.mp lined.sorted).2, fun j => ?_, fun j => ?_, ?_, fun j let_in l member => ?_,
    fun j let_in l holds => ?_⟩
  · rw [now]
    by_cases same : k = j
    · subst same
      simpa using fun member => Nat.lt_irrefl _ (ahead k member)
    · have listed := lined.waiting j
      simp only [List.mem_cons, Ne.symm same, false_or] at listed
      simpa [same] using listed
  · have alone := lined.holder j
    rw [now]
    by_cases same : k = j
    · simp [same]
    · simpa [same] using alone
  · refine List.pairwise_append.mpr ⟨lined.begun, List.pairwise_singleton _ _, fun j old l last => ?_⟩
    rw [List.mem_singleton.mp last]
    exact lined.behind j old k (List.mem_cons_self ..)
  · rcases List.mem_append.mp let_in with old | new
    · exact lined.behind j old l (List.mem_cons_of_mem _ member)
    · rw [List.mem_singleton.mp new]
      exact ahead l member
  · cases holds
    rcases List.mem_append.mp let_in with old | new
    · exact Nat.le_of_lt (lined.behind j old k (List.mem_cons_self ..))
    · exact Nat.le_of_eq (List.mem_singleton.mp new)

theorem Lined.release (lined : Lined queue (some k) standing entered) {last : Standing}
    (through : last = .ended ∨ last = .abandoned)
    (now : ∀ j, standing' j = if k = j then some last else standing j) :
    Lined queue none standing' entered := by
  have inside := (lined.holder k).mp rfl
  refine ⟨lined.sorted, fun j => ?_, fun j => ?_, lined.begun, lined.behind, fun j old l holds => nomatch holds⟩
  · rw [now, lined.waiting]
    by_cases same : k = j
    · subst same
      rcases through with rfl | rfl <;> simp [inside]
    · simp [same]
  · rw [now]
    by_cases same : k = j
    · rcases through with rfl | rfl <;> simp [same]
    · have other := lined.holder j
      simp only [Option.some.injEq, same, false_iff] at other
      simp [same, other]

theorem Lined.withdraw (lined : Lined queue lock standing entered) (queued : standing k = some .queued)
    (now : ∀ j, standing' j = if k = j then some .abandoned else standing j) :
    Lined (queue.filter (· ≠ k)) lock standing' entered := by
  refine ⟨lined.sorted.filter _, fun j => ?_, fun j => ?_, lined.begun, fun j old l member => ?_, lined.latest⟩
  · rw [now, List.mem_filter, lined.waiting]
    by_cases same : k = j
    · simp [same]
    · simp [same, Ne.symm same]
  · rw [now, lined.holder]
    by_cases same : k = j
    · subst same
      simp [queued]
    · simp [same]
  · exact lined.behind j old l (List.mem_filter.mp member).1

end

theorem Call.standing_close {c : Call} {next : Closing} (closing : c.phase = .closing next)
    (unfinished : next ≠ .release) : (c.close next).phase.standing = c.phase.standing := by
  rw [closing]
  cases next with
  | release => exact (unfinished rfl).elim
  | _ => rfl

namespace Controller
variable {registry : Registry} {clock : Clock} {s s' : Controller} {e : Event}
  {happenings : List Happening} {past : List Moment} {k : Nat} {c c' : Call}

def standing? (s : Controller) (k : Nat) : Option Standing := (s.call? k).map fun c => c.phase.standing

theorem standing?_eq (found : s.call? k = some c) : s.standing? k = some c.phase.standing := by
  simp [standing?, found]

theorem standing?_setCall (found : s.call? k = some c) (j : Nat) :
    (s.setCall k c').standing? j = if k = j then some c'.phase.standing else s.standing? j := by
  simp only [standing?, call?_setCall found]
  split <;> rfl

theorem standing?_same (found : s.call? k = some c) (same : c'.phase.standing = c.phase.standing) :
    (s.setCall k c').standing? = s.standing? := by
  funext j
  rw [standing?_setCall found]
  split
  · rename_i here
    rw [← here, standing?_eq found, same]
  · rfl

theorem lt_of_standing? (there : s.standing? k ≠ none) : k < s.calls.length := by
  refine Nat.lt_of_not_le fun outside => there ?_
  simp [standing?, call?, List.getElem?_eq_none outside]

theorem standing?_request {timeout : Duration} {deadline : Nat} (j : Nat) :
    standing? { s with
      calls := s.calls ++ [{ timeout, token := { deadline } }]
      waiting := s.waiting ++ [s.calls.length] } j =
        if s.calls.length = j then some .queued else s.standing? j := by
  simp only [standing?, call?, List.getElem?_append]
  split
  · rename_i before
    rw [if_neg (Nat.ne_of_gt before)]
  · rename_i outside
    by_cases last : s.calls.length = j
    · subst last
      simp [Phase.standing]
    · have beyond : 1 ≤ j - s.calls.length := by omega
      rw [if_neg last, List.getElem?_eq_none beyond, List.getElem?_eq_none (Nat.le_of_not_lt outside)]

theorem standing_work {finalizer : Option Nat} (work : c.Work registry finalizer k e c' happenings) :
    c'.phase.standing = c.phase.standing ∧ happenings.filterMap Happening.began? = [] := by
  have quiet : (failures k c.stops).filterMap Happening.began? = [] := filterMap_failures fun _ _ => rfl
  cases work with
  | stop found move => cases move <;> exact ⟨rfl, rfl⟩
  | finalize stopping => exact ⟨by rw [stopping]; rfl, by simp [quiet, Happening.began?]⟩
  | skip stopping => exact ⟨by rw [stopping]; rfl, quiet⟩
  | endFinalizer finalizing => exact ⟨by rw [finalizing]; rfl, rfl⟩

def Queued (s : Controller) (past : List Moment) : Prop :=
  Lined s.waiting s.holder s.standing? (beginnings past)

theorem beginnings_concat (past : List Moment) (m : Moment) :
    beginnings (past ++ [m]) = beginnings past ++ m.happenings.filterMap Happening.began? := by
  simp [beginnings]

theorem Queued.step (queued : s.Queued past) (known : ∀ j ∈ beginnings past, j < s.calls.length)
    (step : Step registry clock s e s' happenings) :
    s'.Queued (past ++ [⟨registry, clock, s, e, happenings⟩]) := by
  unfold Queued at queued ⊢
  rw [beginnings_concat]
  cases step with
  | request made =>
    rw [List.filterMap_nil, List.append_nil]
    exact queued.request (fun j => lt_of_standing?) known standing?_request
  | overflow =>
    rw [List.filterMap_cons_none rfl, List.filterMap_nil, List.append_nil]
    exact queued
  | @acquire k c found free first _ =>
    obtain ⟨rest, line⟩ : ∃ rest, s.waiting = k :: rest := List.head?_eq_some_iff.mp first
    rw [line, free] at queued
    simp only [line, List.tail_cons]
    exact queued.acquire fun j => standing?_setCall found j
  | work found work =>
    obtain ⟨same, quiet⟩ := standing_work work
    rw [quiet, List.append_nil, standing?_same found same]
    exact queued
  | @close k c next found closing =>
    have quiet : [c.closes k next].filterMap Happening.began? = [] := by cases next <;> rfl
    rw [quiet, List.append_nil]
    -- Only the last closing step gives the lock back; the others keep the call inside.
    cases next with
    | release =>
      have holds := (queued.holder k).mpr (by rw [standing?_eq found, closing]; rfl)
      rw [holds] at queued
      exact queued.release (.inl rfl) fun j => standing?_setCall found j
    | _ =>
      have same := standing?_same found (Call.standing_close closing nofun)
      change Lined s.waiting s.holder (s.setCall k (c.close _)).standing? (beginnings past)
      rw [same]
      exact queued
  | setFinalizer =>
    rw [List.filterMap_nil, List.append_nil]
    exact queued
  | @withdraw k c found waits =>
    rw [List.filterMap_nil, List.append_nil]
    exact queued.withdraw (by rw [standing?_eq found, waits]; rfl) fun j => standing?_setCall found j
  | @leave k c found inside =>
    have holds := (queued.holder k).mpr <| by
      rw [standing?_eq found]
      rcases inside with phase | phase <;> rw [phase] <;> rfl
    rw [holds] at queued
    rw [List.filterMap_cons_none rfl, List.filterMap_nil, List.append_nil]
    exact queued.release (.inr rfl) fun j => standing?_setCall found j

theorem Run.queued {defaultTimeout : Duration} (run : Run { defaultTimeout } past s) : s.Queued past := by
  induction run with
  | start =>
    refine ⟨.nil, fun k => ?_, fun k => ?_, .nil, nofun, nofun⟩ <;> simp [standing?, call?]
  | @step past s s' registry clock e happenings run later stepped ih =>
    refine ih.step (fun j member => ?_) (.of_step stepped)
    obtain ⟨h, inTrace, began⟩ := List.mem_filterMap.mp member
    refine run.call_lt (.inr ⟨h, inTrace, ?_⟩)
    cases h <;> cases began
    rfl

/-- Whoever is let in finds every earlier call ended or given up. -/
theorem Queued.turn (queued : s.Queued past) (step : Step registry clock s (.acquire k) s' happenings)
    {j : Nat} (earlier : j < k) {d : Call} (other : s.call? j = some d) :
    (∃ report, d.phase = .ended report) ∨ d.phase = .abandoned := by
  cases step with
  | work found work => cases work with | stop _ move => cases move
  | acquire found free first =>
    obtain ⟨rest, line⟩ : ∃ rest, s.waiting = k :: rest := List.head?_eq_some_iff.mp first
    have stands := standing?_eq other
    cases phase : d.phase with
    | queued =>
      -- An earlier call that still queued would be ahead of the head.
      have waits := (queued.waiting j).mpr (by rw [stands, phase]; rfl)
      have sorted := queued.sorted
      rw [line] at waits sorted
      rcases List.mem_cons.mp waits with same | behind
      · omega
      · have := (List.pairwise_cons.mp sorted).1 j behind
        omega
    | ended report => exact .inl ⟨report, rfl⟩
    | abandoned => exact .inr rfl
    | _ =>
      have holds := (queued.holder j).mpr (by rw [stands, phase]; rfl)
      cases free.symm.trans holds

end Controller

end FrameHost.Shutdown
