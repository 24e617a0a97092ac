import FrameHost.Proofs.Shutdown.Run

/-! The lock of a controller whose calls nobody gives up.

Calls are let in one by one in the order in which they were made. The last one let in holds the lock
until it ends; those before it have ended, and those after it are queued. -/

set_option autoImplicit false

namespace FrameHost.Shutdown

def Phase.inside : Phase → Bool
  | .stopping | .finalizing | .closing _ => true
  | _ => false

namespace Controller

/-- A controller that has let in its first `n` calls. -/
structure Admitted (s : Controller) (n : Nat) : Prop where
  limit : n ≤ s.calls.length
  waiting : s.waiting = List.range' n (s.calls.length - n)
  holder : ∀ k, s.holder = some k → k + 1 = n
  queued : ∀ k c, s.call? k = some c → n ≤ k → c.phase = .queued
  inside : ∀ k c, s.call? k = some c → s.holder = some k → c.phase.inside = true
  ended : ∀ k c, s.call? k = some c → k < n → s.holder ≠ some k → ∃ report, c.phase = .ended report

variable {registry : Registry} {clock : Clock} {s s' : Controller} {e : Event}
  {happenings : List Happening} {k n : Nat} {c c' : Call}

theorem call?_setCall (found : s.call? k = some c) (j : Nat) :
    (s.setCall k c').call? j = if k = j then some c' else s.call? j := by
  have bound : k < s.calls.length := (List.getElem?_eq_some_iff.mp found).1
  by_cases same : k = j
  · subst same
    simp [call?, setCall, bound]
  · simp [call?, setCall, List.getElem?_set_ne same, same]

theorem length_setCall : (s.setCall k c).calls.length = s.calls.length := by
  simp [setCall]

theorem Admitted.holds (admitted : s.Admitted n) (found : s.call? k = some c)
    (inside : c.phase.inside = true) : s.holder = some k := by
  rcases Nat.lt_or_ge k n with before | after
  · by_cases holds : s.holder = some k
    · exact holds
    · obtain ⟨report, finished⟩ := admitted.ended k c found before holds
      simp [finished, Phase.inside] at inside
  · have queued := admitted.queued k c found after
    simp [queued, Phase.inside] at inside

theorem Admitted.behind (admitted : s.Admitted n) (found : s.call? k = some c)
    (unended : ∀ report, c.phase ≠ .ended report) {j : Nat} {d : Call} (later : k < j)
    (other : s.call? j = some d) : d.phase = .queued := by
  refine admitted.queued j d other ?_
  rcases Nat.lt_or_ge k n with before | after
  · by_cases holds : s.holder = some k
    · have := admitted.holder k holds
      omega
    · obtain ⟨report, finished⟩ := admitted.ended k c found before holds
      exact (unended report finished).elim
  · omega

/-- A call may change as long as it keeps its phase, or stays within the sequence that it runs. -/
theorem Admitted.setCall (admitted : s.Admitted n) (found : s.call? k = some c)
    (still : c'.phase = c.phase ∨ s.holder = some k ∧ c'.phase.inside = true) :
    (s.setCall k c').Admitted n := by
  have limit : n ≤ (s.setCall k c').calls.length := by
    rw [length_setCall]
    exact admitted.limit
  have waiting : s.waiting = List.range' n ((s.setCall k c').calls.length - n) := by
    rw [length_setCall]
    exact admitted.waiting
  refine ⟨limit, waiting, admitted.holder, fun j d now after => ?_, fun j d now holds => ?_,
    fun j d now before free => ?_⟩
  -- Each of the three rules is about some call: the one that changes, or another that stays as it was.
  all_goals
    rw [call?_setCall found] at now
    split at now
  · rename_i same
    subst same
    cases now
    rcases still with kept | ⟨holds, -⟩
    · rw [kept]
      exact admitted.queued k c found after
    · have := admitted.holder k holds
      omega
  · exact admitted.queued j d now after
  · rename_i same
    subst same
    cases now
    rcases still with kept | ⟨-, inside⟩
    · rw [kept]
      exact admitted.inside k c found holds
    · exact inside
  · exact admitted.inside j d now holds
  · rename_i same
    subst same
    cases now
    rcases still with kept | ⟨holds, -⟩
    · rw [kept]
      exact admitted.ended k c found before free
    · exact (free holds).elim
  · exact admitted.ended j d now before free

theorem Admitted.request (admitted : s.Admitted n) {timeout : Duration} {token : Token} :
    Admitted { s with
      calls := s.calls ++ [{ timeout, token }], waiting := s.waiting ++ [s.calls.length] } n := by
  have limit := admitted.limit
  -- A place of the longer list is an old call, or the new one, which is queued.
  have made {j : Nat} {d : Call}
      (now : (s.calls ++ [({ timeout, token } : Call)])[j]? = some d) :
      s.call? j = some d ∨ j = s.calls.length ∧ d.phase = .queued := by
    rw [List.getElem?_append] at now
    split at now
    · exact .inl now
    · obtain ⟨bound, same⟩ := List.getElem?_eq_some_iff.mp now
      have last : j - s.calls.length = 0 := by simpa using bound
      refine .inr ⟨by omega, ?_⟩
      simp [last] at same
      rw [← same]
  refine ⟨?_, ?_, admitted.holder, fun j d now after => ?_, fun j d now holds => ?_,
    fun j d now before free => ?_⟩
  · simp only [List.length_append]
    omega
  · have grown : s.calls.length + 1 - n = s.calls.length - n + 1 := by omega
    have last : n + (s.calls.length - n) = s.calls.length := by omega
    simp [admitted.waiting, grown, List.range'_concat, last]
  · rcases made now with old | ⟨-, queued⟩
    · exact admitted.queued j d old after
    · exact queued
  · rcases made now with old | ⟨rfl, -⟩
    · exact admitted.inside j d old holds
    · have := admitted.holder _ holds
      omega
  · rcases made now with old | ⟨rfl, -⟩
    · exact admitted.ended j d old before free
    · omega

theorem Admitted.acquire (admitted : s.Admitted n) (found : s.call? k = some c)
    (free : s.holder = none) (first : s.waiting.head? = some k) {frames : Nat} :
    Admitted { s.setCall k (c.begun frames) with holder := some k, waiting := s.waiting.tail }
      (n + 1) := by
  have bound : k < s.calls.length := (List.getElem?_eq_some_iff.mp found).1
  -- The queue is the run of numbers from n on, so its head is n itself.
  have next : k = n := by
    rw [admitted.waiting] at first
    cases rest : s.calls.length - n with
    | zero => simp [rest] at first
    | succ m =>
      rw [rest, List.range'_succ] at first
      exact (Option.some.inj first).symm
  subst next
  refine ⟨?_, ?_, ?_, fun j d now after => ?_, fun j d now holds => ?_, fun j d now before other => ?_⟩
  · change k + 1 ≤ (s.calls.set k _).length
    rw [List.length_set]
    omega
  · have rest : s.calls.length - k = s.calls.length - (k + 1) + 1 := by omega
    change s.waiting.tail = List.range' (k + 1) ((s.calls.set k _).length - (k + 1))
    rw [admitted.waiting, List.length_set, rest, List.range'_succ, List.tail_cons]
  · rintro j holds
    cases holds
    rfl
  · change (s.setCall k _).call? j = some d at now
    rw [call?_setCall found, if_neg (by omega)] at now
    exact admitted.queued j d now (by omega)
  · cases holds
    change (s.setCall k _).call? k = some d at now
    rw [call?_setCall found, if_pos rfl] at now
    cases now
    rfl
  · change some k ≠ some j at other
    have apart : k ≠ j := fun same => other (congrArg some same)
    change (s.setCall k _).call? j = some d at now
    rw [call?_setCall found, if_neg apart] at now
    refine admitted.ended j d now (by omega) ?_
    rw [free]
    nofun

theorem Admitted.release (admitted : s.Admitted n) (found : s.call? k = some c)
    (holds : s.holder = some k) (finished : c'.phase = .ended c.report) :
    Admitted { s.setCall k c' with holder := none } n := by
  have last := admitted.holder k holds
  refine ⟨?_, ?_, nofun, fun j d now after => ?_, nofun, fun j d now before _ => ?_⟩
  · change n ≤ (s.setCall k c').calls.length
    rw [length_setCall]
    exact admitted.limit
  · change s.waiting = List.range' n ((s.setCall k c').calls.length - n)
    rw [length_setCall]
    exact admitted.waiting
  · change (s.setCall k c').call? j = some d at now
    rw [call?_setCall found, if_neg (by omega)] at now
    exact admitted.queued j d now after
  · change (s.setCall k c').call? j = some d at now
    rw [call?_setCall found] at now
    split at now
    · cases now
      exact ⟨_, finished⟩
    · rename_i apart
      refine admitted.ended j d now before fun other => apart ?_
      exact Option.some.inj (holds.symm.trans other)

theorem Admitted.close (admitted : s.Admitted n) (found : s.call? k = some c) {next : Closing}
    (closing : c.phase = .closing next) : (s.closeStep k c next).1.Admitted n := by
  have holds := admitted.holds found (by rw [closing]; rfl)
  -- Only the last closing step gives the lock back.
  cases next with
  | release => exact admitted.release found holds rfl
  | publish =>
    have moved : (s.setCall k (c.close .publish)).Admitted n :=
      admitted.setCall found (.inr ⟨holds, rfl⟩)
    exact ⟨moved.limit, moved.waiting, moved.holder, moved.queued, moved.inside, moved.ended⟩
  | _ => exact admitted.setCall found (.inr ⟨holds, rfl⟩)

theorem Admitted.work (admitted : s.Admitted n) (found : s.call? k = some c)
    (work : c.Work registry s.finalizer k e c' happenings) : (s.setCall k c').Admitted n := by
  cases work with
  | stop => exact admitted.setCall found (.inl rfl)
  | finalize stopping =>
    exact admitted.setCall found (.inr ⟨admitted.holds found (by rw [stopping]; rfl), rfl⟩)
  | skip stopping =>
    exact admitted.setCall found (.inr ⟨admitted.holds found (by rw [stopping]; rfl), rfl⟩)
  | endFinalizer finalizing =>
    exact admitted.setCall found (.inr ⟨admitted.holds found (by rw [finalizing]; rfl), rfl⟩)

theorem Admitted.next (admitted : s.Admitted n) (first : s.waiting.head? = some k) :
    k = n ∧ n < s.calls.length := by
  rw [admitted.waiting] at first
  cases rest : s.calls.length - n with
  | zero => simp [rest] at first
  | succ m =>
    rw [rest, List.range'_succ] at first
    exact ⟨(Option.some.inj first).symm, by omega⟩

/-- As long as a call has not ended, one that is not behind it is in its sequence, or is let in next. -/
theorem Admitted.front (admitted : s.Admitted n) (found : s.call? k = some c)
    (unended : ∀ report, c.phase ≠ .ended report) :
    (∃ d, n ≤ k ∧ s.holder = none ∧ s.waiting.head? = some n ∧ s.call? n = some d ∧
      d.phase = .queued) ∨
    ∃ j d, j ≤ k ∧ s.call? j = some d ∧ d.phase.inside = true := by
  have made : k < s.calls.length := (List.getElem?_eq_some_iff.mp found).1
  cases holder : s.holder with
  | none =>
    have through : n ≤ k := Nat.le_of_not_lt fun before => by
      obtain ⟨report, ended⟩ := admitted.ended k c found before (by rw [holder]; nofun)
      exact unended report ended
    have bound : n < s.calls.length := Nat.lt_of_le_of_lt through made
    have present : s.call? n = some s.calls[n] := List.getElem?_eq_getElem bound
    refine .inl ⟨_, through, rfl, ?_, present, admitted.queued n _ present (Nat.le_refl _)⟩
    have rest : s.calls.length - n = s.calls.length - n - 1 + 1 := by omega
    rw [admitted.waiting, rest, List.range'_succ, List.head?_cons]
  | some j =>
    have last := admitted.holder j holder
    have limit := admitted.limit
    have bound : j < s.calls.length := by omega
    have present : s.call? j = some s.calls[j] := List.getElem?_eq_getElem bound
    refine .inr ⟨j, _, Nat.le_of_not_lt fun before => ?_, present, admitted.inside j _ present holder⟩
    have apart : s.holder ≠ some k := by
      intro same
      have := Option.some.inj (holder.symm.trans same)
      omega
    obtain ⟨report, ended⟩ := admitted.ended k c found (by omega) apart
    exact unended report ended

theorem Admitted.step (admitted : s.Admitted n) (step : Step registry clock s e s' happenings)
    (kept : ∀ k, e ≠ .abandon k) : ∃ n, s'.Admitted n := by
  cases step with
  | request => exact ⟨n, admitted.request⟩
  | overflow => exact ⟨n, admitted⟩
  | acquire found free first => exact ⟨n + 1, admitted.acquire found free first⟩
  | work found work => exact ⟨n, admitted.work found work⟩
  | close found closing => exact ⟨n, admitted.close found closing⟩
  | setFinalizer =>
    exact ⟨n, admitted.limit, admitted.waiting, admitted.holder, admitted.queued, admitted.inside,
      admitted.ended⟩
  | withdraw => exact (kept _ rfl).elim
  | leave => exact (kept _ rfl).elim

theorem Run.admitted {past : List Moment} {defaultTimeout : Duration}
    (run : Run { defaultTimeout } past s) (kept : ∀ m ∈ past, ∀ k, m.event ≠ .abandon k) :
    ∃ n, s.Admitted n := by
  induction run with
  | start => exact ⟨0, by simp, rfl, nofun, nofun, nofun, nofun⟩
  | step run later stepped ih =>
    obtain ⟨n, admitted⟩ := ih fun m member => kept m (List.mem_append_left _ member)
    exact admitted.step (.of_step stepped) (kept _ (List.mem_append_right _ (List.mem_singleton.mpr rfl)))

end Controller

end FrameHost.Shutdown
