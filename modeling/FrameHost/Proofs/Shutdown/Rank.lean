import FrameHost.Proofs.Shutdown.Lock
import FrameHost.Proofs.Shutdown.Course

/-! The parts of a sequence and their ranks.

As long as nobody gives up a call, the trace is sorted by sequence and by rank. The invariant ties it
to the phases of the calls: nothing in it is beyond the phase that its call has reached. -/

set_option autoImplicit false

namespace FrameHost.Shutdown

def Closing.rank : Closing → Nat
  | .cancel => 6
  | .count => 7
  | .summarize => 8
  | .closeLog => 9
  | .publish => 10
  | .release => 11

/-- The place of a happening within its sequence. -/
def Happening.rank : Happening → Nat
  | .overflowed => 0
  | .began .. => 1
  | .invoked .. | .returned .. | .panicked .. => 2
  | .stopFailed .. => 3
  | .finalizerCalled .. => 4
  | .finalizerEnded .. => 5
  | .cancelled _ => Closing.cancel.rank
  | .counted .. => Closing.count.rank
  | .summarized .. => Closing.summarize.rank
  | .logClosed _ => Closing.closeLog.rank
  | .published .. => Closing.publish.rank
  | .released _ => Closing.release.rank

/-- The frames of a sequence stop, and fail to stop, side by side. Nothing else happens twice. -/
def Happening.repeats (h : Happening) : Prop := h.rank = 2 ∨ h.rank = 3

/-- Of two happenings the first is of an earlier sequence, or of an earlier part of the same. -/
def Precedes (a b : Happening) : Prop :=
  ∀ j k, a.call? = some j → b.call? = some k →
    j < k ∨ j = k ∧ (a.rank < b.rank ∨ a.rank = b.rank ∧ a.repeats)

def Phase.rank : Phase → Nat
  | .queued | .abandoned => 0
  | .stopping => 2
  | .finalizing => 4
  | .closing next => next.rank - 1
  | .ended _ => 11

section
variable {registry : Registry} {finalizer : Option Nat} {k : Nat} {c c' : Call} {e : Event}
  {happenings : List Happening}

@[simp] theorem Call.rank_closes (next : Closing) : (c.closes k next).rank = next.rank := by
  cases next <;> rfl

theorem Call.rank_close {next : Closing} (closing : c.phase = .closing next) :
    (c.close next).phase.rank = next.rank ∧ c.phase.rank < next.rank := by
  rw [closing]
  cases next <;> exact ⟨rfl, by decide⟩

theorem Stop.Move.rank {i deadline : Nat} {stop next : Stop} {h : Happening}
    (move : stop.Move registry k i deadline e next h) : h.rank = 2 := by
  cases move <;> rfl

theorem Happening.rank_pos {h : Happening} (concerned : h.call? = some k) : 0 < h.rank := by
  cases h with
  | overflowed => cases concerned
  | _ =>
    simp only [Happening.rank, Closing.rank]
    omega

theorem rank_of_mem_failures {stops : List Stop} {h : Happening}
    (failed : h ∈ Controller.failures k stops) : h.rank = 3 := by
  obtain ⟨i, message, -, rfl⟩ := mem_failures.mp failed
  rfl

theorem pairwise_failures (stops : List Stop) :
    (Controller.failures k stops).Pairwise Precedes := by
  refine List.pairwise_of_forall_mem_list fun a first b second j l ofA ofB => .inr ?_
  have rankA := rank_of_mem_failures first
  have rankB := rank_of_mem_failures second
  have sameA := (call?_of_mem_failures first).symm.trans ofA
  have sameB := (call?_of_mem_failures second).symm.trans ofB
  refine ⟨Option.some.inj (sameA.symm.trans sameB), .inr ⟨by omega, .inr rankA⟩⟩

/-- What a step adds to the trace lies between the phases before and after it. -/
structure Advance (c : Call) (happenings : List Happening) (c' : Call) : Prop where
  unended : ∀ report, c.phase ≠ .ended report
  mono : c.phase.rank ≤ c'.phase.rank
  later : ∀ h ∈ happenings, c.phase.rank < h.rank ∨ c.phase.rank = h.rank ∧ h.repeats
  reached : ∀ h ∈ happenings, h.rank ≤ c'.phase.rank
  sorted : happenings.Pairwise Precedes

theorem Advance.single {h : Happening} (unended : ∀ report, c.phase ≠ .ended report)
    (later : c.phase.rank < h.rank ∨ c.phase.rank = h.rank ∧ h.repeats)
    (reached : h.rank ≤ c'.phase.rank) : Advance c [h] c' where
  unended := unended
  mono := by omega
  later := List.forall_mem_singleton.mpr later
  reached := List.forall_mem_singleton.mpr reached
  sorted := List.pairwise_singleton _ _

theorem Call.Work.advance {past : List Moment} (passed : Passed past k c)
    (kept : c.phase ≠ .abandoned) (work : c.Work registry finalizer k e c' happenings) :
    Advance c happenings c' := by
  cases work with
  | stop found move =>
    have rank := move.rank
    rcases passed.pending found move.pending.1 with phase | phase
    · have reached : c.phase.rank = 2 := by rw [phase]; rfl
      exact .single (by simp [phase]) (.inr ⟨by omega, .inl rank⟩) (by simp only; omega)
    · exact (kept phase).elim
  | @finalize f stopping =>
    have before : c.phase.rank = 2 := by rw [stopping]; rfl
    have ranked : ∀ h ∈ Controller.failures k c.stops ++ [.finalizerCalled k f c.token.deadline],
        h.rank = 3 ∨ h.rank = 4 := by
      intro h member
      rcases List.mem_append.mp member with failed | called
      · exact .inl (rank_of_mem_failures failed)
      · rw [List.mem_singleton.mp called]
        exact .inr rfl
    refine ⟨by simp [stopping], ?_, fun h member => ?_, fun h member => ?_, ?_⟩
    · change c.phase.rank ≤ 4
      omega
    · have := ranked h member
      omega
    · change h.rank ≤ 4
      have := ranked h member
      omega
    · -- The failures are said before the finalizer is called.
      refine List.pairwise_append.mpr ⟨pairwise_failures _, List.pairwise_singleton _ _, ?_⟩
      intro a failed b called j l ofA ofB
      cases List.mem_singleton.mp called
      cases ofB
      have same := (call?_of_mem_failures failed).symm.trans ofA
      have rank := rank_of_mem_failures failed
      refine .inr ⟨(Option.some.inj same).symm, .inl ?_⟩
      change a.rank < 4
      omega
  | skip stopping =>
    have before : c.phase.rank = 2 := by rw [stopping]; rfl
    refine ⟨by simp [stopping], ?_, fun h failed => ?_, fun h failed => ?_, pairwise_failures _⟩
    · change c.phase.rank ≤ 5
      omega
    · have := rank_of_mem_failures failed
      omega
    · change h.rank ≤ 5
      have := rank_of_mem_failures failed
      omega
  | endFinalizer finalizing =>
    have before : c.phase.rank = 4 := by rw [finalizing]; rfl
    refine .single (by simp [finalizing]) (.inl ?_) (Nat.le_refl 5)
    change c.phase.rank < 5
    omega

theorem Call.Step.advance {past : List Moment} (passed : Passed past k c)
    (kept : c.phase ≠ .abandoned) (stays : e ≠ .abandon k)
    (step : c.Step registry finalizer k e c' happenings) : Advance c happenings c' := by
  cases step with
  | acquire queued =>
    have before : c.phase.rank = 0 := by rw [queued]; rfl
    refine .single (by simp [queued]) (.inl ?_) (show 1 ≤ 2 by omega)
    change c.phase.rank < 1
    omega
  | work work => exact work.advance passed kept
  | @close next closing =>
    obtain ⟨after, before⟩ := Call.rank_close closing
    exact .single (by simp [closing]) (.inl (by simpa using before)) (by simp [after])
  | withdraw => exact (stays rfl).elim
  | leave => exact (stays rfl).elim

end

namespace Controller
variable {s : Controller} {past : List Moment} {defaultTimeout : Duration}

/-- The trace so far is in order, and no call has left anything beyond its phase. -/
structure Ranked (past : List Moment) (s : Controller) : Prop where
  reached : ∀ h ∈ trace past, ∀ k c, h.call? = some k → s.call? k = some c → h.rank ≤ c.phase.rank
  sorted : (trace past).Pairwise Precedes

theorem Admitted.unabandoned {n k : Nat} {c : Call} (admitted : s.Admitted n)
    (found : s.call? k = some c) : c.phase ≠ .abandoned := by
  intro abandoned
  rcases Nat.lt_or_ge k n with before | after
  · by_cases holds : s.holder = some k
    · have inside := admitted.inside k c found holds
      simp [abandoned, Phase.inside] at inside
    · obtain ⟨report, finished⟩ := admitted.ended k c found before holds
      simp [abandoned] at finished
  · have queued := admitted.queued k c found after
    simp [abandoned] at queued

theorem Ranked.precedes (ranked : Ranked past s) {n k : Nat} {c c' : Call} {happenings : List Happening}
    (admitted : s.Admitted n) (found : s.call? k = some c) (advance : Advance c happenings c')
    (made : ∀ h ∈ trace past, ∀ j, h.call? = some j → j < s.calls.length)
    (own : ∀ h ∈ happenings, h.call? = some k) :
    ∀ a ∈ trace past, ∀ b ∈ happenings, Precedes a b := by
  intro a before b new j l ofA ofB
  cases Option.some.inj ((own b new).symm.trans ofB)
  have bound := made a before j ofA
  have other : s.call? j = some s.calls[j] := List.getElem?_eq_getElem bound
  have limit := ranked.reached a before j _ ofA other
  rcases Nat.lt_trichotomy j k with less | equal | greater
  · exact .inl less
  · subst equal
    cases Option.some.inj (found.symm.trans other)
    refine .inr ⟨rfl, ?_⟩
    rcases advance.later b new with after | ⟨level, repeated⟩
    · exact .inl (by omega)
    · rcases Nat.lt_or_ge a.rank b.rank with less | least
      · exact .inl less
      · have equal : a.rank = b.rank := by omega
        refine .inr ⟨equal, ?_⟩
        unfold Happening.repeats at repeated ⊢
        rwa [equal]
  · -- A later call is still queued and has left nothing.
    have queued := admitted.behind found advance.unended greater other
    have positive := Happening.rank_pos ofA
    rw [queued] at limit
    simp only [Phase.rank] at limit
    omega

theorem Run.ranked (run : Run { defaultTimeout } past s)
    (kept : ∀ m ∈ past, ∀ k, m.event ≠ .abandon k) : Ranked past s := by
  induction run with
  | start => exact ⟨nofun, List.Pairwise.nil⟩
  | @step past s s' registry clock e happenings run later stepped ih =>
    have earlier : ∀ m ∈ past, ∀ k, m.event ≠ .abandon k :=
      fun m member => kept m (List.mem_append_left _ member)
    have stays (k : Nat) : e ≠ .abandon k :=
      kept _ (List.mem_append_right _ (List.mem_singleton.mpr rfl)) k
    have made : ∀ h ∈ trace past, ∀ j, h.call? = some j → j < s.calls.length :=
      fun h member j concerned => run.call_lt (.inr ⟨h, member, concerned⟩)
    have ranked := ih earlier
    -- A new happening comes after all others, so what is to be shown is of it alone.
    rcases (Step.of_step stepped).calls_cases with ⟨same, -, quiet⟩ |
        ⟨timeout, deadline, -, rfl, -, added⟩ | ⟨k, c, c', found, work, changed⟩
    · refine ⟨fun h member k c concerned now => ?_, ?_⟩
      · rcases List.mem_append.mp (trace_concat past _ ▸ member) with before | now'
        · exact ranked.reached h before k c concerned (by rwa [call?, same] at now)
        · simp [quiet h now'] at concerned
      · rw [trace_concat]
        refine List.pairwise_append.mpr ⟨ranked.sorted, ?_, fun a _ b member j k _ ofB => ?_⟩
        · refine List.pairwise_of_forall_mem_list fun a first b _ j k ofA _ => ?_
          simp [quiet a first] at ofA
        · simp [quiet b member] at ofB
    · refine ⟨fun h member k c concerned now => ?_, by simpa using ranked.sorted⟩
      have before : h ∈ trace past := by simpa using member
      rw [call?, added, List.getElem?_append_left (made h before k concerned)] at now
      exact ranked.reached h before k c concerned now
    · obtain ⟨n, admitted⟩ := run.admitted earlier
      have advance := work.advance (run.passed rfl k c found) (admitted.unabandoned found) (stays k)
      refine ⟨fun h member j d concerned now => ?_, ?_⟩
      · rw [call?, changed] at now
        change (s.setCall k c').call? j = some d at now
        rw [call?_setCall found] at now
        rcases List.mem_append.mp (trace_concat past _ ▸ member) with before | new
        · split at now
          · rename_i same
            subst same
            cases now
            exact Nat.le_trans (ranked.reached h before k c concerned found) advance.mono
          · exact ranked.reached h before j d concerned now
        · have same := Option.some.inj ((work.call? h new).symm.trans concerned)
          rw [if_pos same] at now
          cases now
          exact advance.reached h new
      · rw [trace_concat]
        exact List.pairwise_append.mpr ⟨ranked.sorted, advance.sorted,
          ranked.precedes admitted found advance made work.call?⟩

end Controller

end FrameHost.Shutdown
