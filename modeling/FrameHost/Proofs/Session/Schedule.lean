import FrameHost.Session.Schedule

/-! A schedule whose timers are in order.

Then a jump of the clock fires exactly the timers whose time has come, and no later one. -/

set_option autoImplicit false

namespace FrameHost.Session.Schedule

/-- The timers go off one after another, no task stands in the queue twice, and the main one does not. -/
structure Ordered (s : Schedule) : Prop where
  sorted : s.timers.Pairwise fun a b => a.due ≤ b.due
  distinct : s.queue.Nodup
  others : ∀ task ∈ s.queue, task ≠ 0

def ofTask (t : Timer) : Bool := t.owner != 0

/-- How much the tasks of the queue and the timers of such tasks can still do. -/
def load (s : Schedule) : Nat := s.queue.length + 2 * s.timers.countP ofTask

section
variable {s s' : Schedule} {t u : Timer} {timers : List Timer} {task owner due : Nat}

theorem perm_insertTimer : (insertTimer t timers).Perm (t :: timers) := by
  induction timers with
  | nil => rfl
  | cons u rest ih =>
    unfold insertTimer
    split
    · rfl
    · exact (ih.cons u).trans (.swap ..)

theorem mem_insertTimer : u ∈ insertTimer t timers ↔ u = t ∨ u ∈ timers := by
  rw [perm_insertTimer.mem_iff, List.mem_cons]

theorem sorted_insertTimer (sorted : timers.Pairwise fun a b => a.due ≤ b.due) :
    (insertTimer t timers).Pairwise fun a b => a.due ≤ b.due := by
  induction timers with
  | nil => simp [insertTimer]
  | cons u rest ih =>
    obtain ⟨first, later⟩ := List.pairwise_cons.mp sorted
    unfold insertTimer
    split
    · rename_i before
      refine List.pairwise_cons.mpr ⟨fun v member => ?_, sorted⟩
      rcases List.mem_cons.mp member with rfl | member
      · exact Nat.le_of_lt before
      · exact Nat.le_trans (Nat.le_of_lt before) (first v member)
    · rename_i after
      refine List.pairwise_cons.mpr ⟨fun v member => ?_, ih later⟩
      rcases mem_insertTimer.mp member with rfl | member
      · exact Nat.le_of_not_lt after
      · exact first v member

theorem takeWhile_due (now : Nat) (sorted : timers.Pairwise fun a b => a.due ≤ b.due) :
    timers.takeWhile (fun t => decide (t.due ≤ now)) = timers.filter (fun t => decide (t.due ≤ now)) ∧
      timers.dropWhile (fun t => decide (t.due ≤ now)) = timers.filter fun t => decide (now < t.due) := by
  induction timers with
  | nil => exact ⟨rfl, rfl⟩
  | cons t rest ih =>
    obtain ⟨first, later⟩ := List.pairwise_cons.mp sorted
    by_cases come : t.due ≤ now
    · simp [come, Nat.not_lt.mpr come, ih later]
    · have after : ∀ u ∈ rest, now < u.due := fun u member =>
        Nat.lt_of_lt_of_le (Nat.lt_of_not_le come) (first u member)
      have none : rest.filter (fun u => decide (u.due ≤ now)) = [] :=
        List.filter_eq_nil_iff.mpr fun u member => by simpa using after u member
      have all : rest.filter (fun u => decide (now < u.due)) = rest :=
        List.filter_eq_self.mpr fun u member => by simpa using after u member
      simp [come, Nat.lt_of_not_le come, none, all]

@[simp] theorem now_wake : (s.wake task).now = s.now := by
  unfold wake
  split
  · rfl
  · split <;> rfl

@[simp] theorem timers_wake : (s.wake task).timers = s.timers := by
  unfold wake
  split
  · rfl
  · split <;> rfl

theorem mainWoken_wake : (s.wake task).mainWoken = true ↔ s.mainWoken = true ∨ task = 0 := by
  unfold wake
  split
  · rename_i main
    simp [main]
  · rename_i other
    split <;> simp [other]

theorem mem_queue_wake {x : Nat} : x ∈ (s.wake task).queue ↔ x ∈ s.queue ∨ (x = task ∧ task ≠ 0) := by
  unfold wake
  split
  · rename_i main
    simp [main]
  · rename_i other
    split
    · rename_i queued
      constructor
      · exact .inl
      · rintro (member | ⟨rfl, -⟩)
        · exact member
        · exact queued
    · simp [other]

theorem length_queue_wake : (s.wake task).queue.length ≤ s.queue.length + if task = 0 then 0 else 1 := by
  unfold wake
  split
  · simp
  · split <;> simp

theorem Ordered.wake (ordered : s.Ordered) : (s.wake task).Ordered := by
  constructor
  · rw [timers_wake]
    exact ordered.sorted
  · unfold Schedule.wake
    split
    · exact ordered.distinct
    · split
      · exact ordered.distinct
      · rename_i fresh
        refine List.nodup_append.mpr ⟨ordered.distinct, by simp, fun x member y new same => ?_⟩
        rw [List.mem_singleton.mp new] at same
        exact fresh (same ▸ member)
  · intro x member
    rcases mem_queue_wake.mp member with old | ⟨rfl, other⟩
    · exact ordered.others x old
    · exact other

theorem Ordered.setTimer (ordered : s.Ordered) : (s.setTimer owner due).Ordered :=
  ⟨sorted_insertTimer ordered.sorted, ordered.distinct, ordered.others⟩

theorem load_wake : (s.wake task).load ≤ s.load + 1 := by
  have grown : (s.wake task).queue.length ≤ _ := length_queue_wake
  simp only [load, timers_wake]
  split at grown <;> omega

theorem load_setTimer : (s.setTimer owner due).load = s.load + if owner = 0 then 0 else 2 := by
  simp only [load, setTimer, perm_insertTimer.countP_eq, List.countP_cons, ofTask]
  by_cases main : owner = 0
  · simp [main]
  · simp [main]
    omega

theorem load_dropTimers : (s.dropTimers 0).load = s.load := by
  have same : (s.timers.filter fun t => decide (t.owner ≠ 0)).countP ofTask = s.timers.countP ofTask := by
    rw [List.countP_filter]
    exact List.countP_congr fun t _ => by simp [ofTask]
  simp only [load, dropTimers, same]

structure Fired (s : Schedule) (due : List Timer) (s' : Schedule) : Prop where
  now : s'.now = s.now
  timers : s'.timers = s.timers
  ordered : s.Ordered → s'.Ordered
  woken : s'.mainWoken = true ↔ s.mainWoken = true ∨ ∃ t ∈ due, t.owner = 0
  queue : ∀ x, x ∈ s'.queue ↔ x ∈ s.queue ∨ ∃ t ∈ due, t.owner = x ∧ x ≠ 0
  length : s'.queue.length ≤ s.queue.length + due.countP ofTask

theorem fired_foldl (due : List Timer) (s : Schedule) : Fired s due (due.foldl (fun s t => s.wake t.owner) s) := by
  induction due generalizing s with
  | nil => constructor <;> simp
  | cons t rest ih =>
    rw [List.foldl_cons]
    have after := ih (s.wake t.owner)
    constructor
    · rw [after.now, now_wake]
    · rw [after.timers, timers_wake]
    · exact fun ordered => after.ordered ordered.wake
    · rw [after.woken, mainWoken_wake]
      simp [or_assoc]
    · intro x
      rw [after.queue, mem_queue_wake]
      simp only [List.mem_cons, exists_eq_or_imp, or_assoc]
      refine or_congr_right (or_congr_left ?_)
      constructor
      · rintro ⟨rfl, other⟩
        exact ⟨rfl, other⟩
      · rintro ⟨rfl, other⟩
        exact ⟨rfl, other⟩
    · have first : (s.wake t.owner).queue.length ≤ _ := length_queue_wake
      have more := after.length
      simp only [List.countP_cons, ofTask, bne_iff_ne, ne_eq]
      by_cases main : t.owner = 0
      · simp only [main, if_true, not_true_eq_false, if_false] at first more ⊢
        exact Nat.le_trans more (Nat.add_le_add_right first _)
      · simp only [main, if_false, not_false_eq_true, if_true] at first ⊢
        exact Nat.le_trans more (Nat.le_trans (Nat.add_le_add_right first _) (by omega))

/-- A jump of the clock. -/
structure Jump (s s' : Schedule) : Prop where
  ordered : s'.Ordered
  later : s.now ≤ s'.now
  bound : ∀ t ∈ s.timers, s'.now ≤ max s.now t.due
  timers : ∀ t, t ∈ s'.timers ↔ t ∈ s.timers ∧ s'.now < t.due
  woken : s'.mainWoken = true ↔ s.mainWoken = true ∨ ∃ t ∈ s.timers, t.owner = 0 ∧ t.due ≤ s'.now
  queue : ∀ x, x ∈ s'.queue ↔ x ∈ s.queue ∨ ∃ t ∈ s.timers, t.owner = x ∧ x ≠ 0 ∧ t.due ≤ s'.now
  load : s'.mainWoken = true ∧ s'.load ≤ s.load ∨ s'.load < s.load

theorem exists_advance? (member : t ∈ s.timers) : ∃ s', s.advance? = some s' := by
  unfold advance?
  split
  · rename_i none
    rw [none] at member
    exact nomatch member
  · exact ⟨_, rfl⟩

theorem Ordered.jump (ordered : s.Ordered) (advanced : s.advance? = some s') : Jump s s' := by
  unfold advance? at advanced
  split at advanced
  · cases advanced
  · rename_i first rest shape
    generalize jumped : max s.now first.due = now at advanced
    have fired := fired_foldl (s.timers.takeWhile fun t => decide (t.due ≤ now))
      { s with now, timers := s.timers.dropWhile fun t => decide (t.due ≤ now) }
    rw [Option.some.inj advanced] at fired
    obtain ⟨takes, drops⟩ := takeWhile_due now ordered.sorted
    have counted : s.timers.countP ofTask = (s.timers.takeWhile fun t => decide (t.due ≤ now)).countP ofTask +
        (s.timers.dropWhile fun t => decide (t.due ≤ now)).countP ofTask := by
      rw [← List.countP_append, List.takeWhile_append_dropWhile]
    -- From here on it does not matter how the timers that fire were found.
    generalize s.timers.takeWhile (fun t => decide (t.due ≤ now)) = due at fired takes counted
    generalize s.timers.dropWhile (fun t => decide (t.due ≤ now)) = left at fired drops counted
    have clock : s'.now = now := fired.now
    have timers : s'.timers = left := fired.timers
    have come : ∀ t, t ∈ due ↔ t ∈ s.timers ∧ t.due ≤ now := by simp [takes]
    have earliest : first ∈ s.timers ∧ ∀ t ∈ s.timers, first.due ≤ t.due := by
      have sorted := ordered.sorted
      rw [shape] at sorted ⊢
      refine ⟨List.mem_cons_self, fun t member => ?_⟩
      rcases List.mem_cons.mp member with rfl | later
      · exact Nat.le_refl _
      · exact (List.pairwise_cons.mp sorted).1 t later
    constructor
    · exact fired.ordered ⟨drops ▸ ordered.sorted.filter _, ordered.distinct, ordered.others⟩
    · rw [clock, ← jumped]
      exact Nat.le_max_left ..
    · intro t member
      have first := earliest.2 t member
      omega
    · intro t
      rw [timers, clock, drops]
      simp
    · rw [fired.woken, clock]
      simp only [come]
      refine or_congr_right (exists_congr fun t => ?_)
      rw [and_assoc, and_comm (a := t.due ≤ now)]
    · intro x
      rw [fired.queue, clock]
      simp only [come]
      refine or_congr_right (exists_congr fun t => ?_)
      rw [and_assoc, ← and_assoc (b := x ≠ 0), and_comm (a := t.due ≤ now)]
    · have length : s'.queue.length ≤ s.queue.length + due.countP ofTask := fired.length
      simp only [load, timers, counted]
      -- A timer of a task that fires is worth more than the place in the queue. If none fires, the main one does.
      by_cases quiet : due.countP ofTask = 0
      · have member : first ∈ due := (come first).mpr ⟨earliest.1, jumped ▸ Nat.le_max_right ..⟩
        have main : first.owner = 0 := by simpa [ofTask] using List.countP_eq_zero.mp quiet first member
        exact .inl ⟨fired.woken.mpr (.inr ⟨first, member, main⟩), by omega⟩
      · exact .inr (by omega)

end

end FrameHost.Session.Schedule
