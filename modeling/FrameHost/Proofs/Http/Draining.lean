import FrameHost.Proofs.Http.Ownership

/-! What the answer of a shutdown says of the run that held the frame.

A shutdown looks at the flag again after it has let go of the lock, and the flag does not say whose it
is. Still, one that reads it as down knows that the run it told to stop is gone: that run held the frame
at the lock, and a run that holds the frame keeps the flag up until it releases the frame. -/

set_option autoImplicit false

namespace FrameHost.Http

/-- The one moment at which a shutdown takes the lock. -/
structure Took (s : Nat) (past before : List Moment) (took : Moment) (rest : List Moment) : Prop where
  split : past = before ++ took :: rest
  event : took.event = .take s
  once : ∀ m ∈ before ++ rest, m.event ≠ .take s

inductive Returns (s : Nat) (m : Moment) : Bool → Prop where
  | observes (event : m.event = .observe s) (idle : m.before.running = false) : Returns s m true
  | expires {stop : Stop} (event : m.event = .expire s) (found : m.before.stops[s]? = some stop)
      (fired : stop.token.fired m.now = true) : Returns s m false

/-- How a moment bears on the stage of a shutdown. -/
inductive Progress (s : Nat) (m : Moment) : Option StopStage → Option StopStage → Prop where
  | stay {stage : Option StopStage} (other : m.event ≠ .take s) : Progress s m stage stage
  | call (other : m.event ≠ .take s) : Progress s m none (some .called)
  | tell {r : Nat} (event : m.event = .take s) (told : m.happenings = [.told s r]) :
      Progress s m (some .called) (some (.draining r))
  | find (event : m.event = .take s) (found : m.happenings = [.foundStopped s]) :
      Progress s m (some .called) (some (.returned true))
  | answer {r : Nat} {graceful : Bool} (returns : Returns s m graceful) :
      Progress s m (some (.draining r)) (some (.returned graceful))

/-- What a past has seen of a shutdown that has come to a stage. -/
inductive Account (s : Nat) (past : List Moment) : Option StopStage → Prop where
  | uncalled (waits : ∀ m ∈ past, m.event ≠ .take s) : Account s past none
  | called (waits : ∀ m ∈ past, m.event ≠ .take s) : Account s past (some .called)
  | draining {before rest : List Moment} {m : Moment} {r : Nat} (took : Took s past before m rest)
      (told : m.happenings = [.told s r]) : Account s past (some (.draining r))
  | found {before rest : List Moment} {m : Moment} (took : Took s past before m rest)
      (found : m.happenings = [.foundStopped s]) : Account s past (some (.returned true))
  | answered {before between after : List Moment} {m last : Moment} {r : Nat} {graceful : Bool}
      (took : Took s past before m (between ++ last :: after)) (told : m.happenings = [.told s r])
      (returns : Returns s last graceful) : Account s past (some (.returned graceful))

section
variable {s : Nat} {past before rest : List Moment} {m last : Moment} {stage stage' : Option StopStage}

theorem Took.concat (took : Took s past before m rest) (other : last.event ≠ .take s) :
    Took s (past ++ [last]) before m (rest ++ [last]) where
  split := by rw [took.split]; simp
  event := took.event
  once later member := by
    rw [← List.append_assoc] at member
    rcases List.mem_append.mp member with old | new
    · exact took.once later old
    · rw [List.mem_singleton.mp new]
      exact other

theorem Took.latest (waits : ∀ m ∈ past, m.event ≠ .take s) (event : last.event = .take s) :
    Took s (past ++ [last]) past last [] where
  split := rfl
  event := event
  once later member := waits later (by simpa using member)

theorem Account.concat (account : Account s past stage) (progress : Progress s last stage stage') :
    Account s (past ++ [last]) stage' := by
  have quiet (waits : ∀ m ∈ past, m.event ≠ .take s) (other : last.event ≠ .take s) :
      ∀ m ∈ past ++ [last], m.event ≠ .take s := by
    simpa [or_imp, forall_and] using ⟨waits, other⟩
  -- What is found at the lock or told there fits only a shutdown that has not taken the lock before.
  cases progress with
  | stay other =>
    cases account with
    | uncalled waits => exact .uncalled (quiet waits other)
    | called waits => exact .called (quiet waits other)
    | draining took told => exact .draining (took.concat other) told
    | found took found => exact .found (took.concat other) found
    | answered took told returns =>
      have took := took.concat other
      rw [List.append_assoc] at took
      exact .answered took told returns
  | call other =>
    cases account with
    | uncalled waits => exact .called (quiet waits other)
  | tell event told =>
    cases account with
    | called waits => exact .draining (.latest waits event) told
  | find event found =>
    cases account with
    | called waits => exact .found (.latest waits event) found
  | answer returns =>
    cases account with
    | draining took told =>
      have other : last.event ≠ .take s := by
        cases returns with
        | observes event | expires event => simp [event]
      exact .answered (took.concat other) told returns

end

namespace Frame

def stopStage? (f : Frame) (s : Nat) : Option StopStage := (f.stops[s]?).map Stop.stage

theorem stopStage?_setStop {f : Frame} {s : Nat} {stop : Stop} (found : f.stops[s]? = some stop)
    (next : Stop) (i : Nat) :
    (f.setStop s next).stopStage? i = if i = s then some next.stage else f.stopStage? i := by
  by_cases same : i = s
  · subst same
    simp [stopStage?, setStop, (List.getElem?_eq_some_iff.mp found).1]
  · simp [stopStage?, setStop, same, Ne.symm same]

theorem Step.progress {now : Nat} {f f' : Frame} {e : Event} {happenings : List Happening}
    (step : Step now f e f' happenings) (s : Nat) :
    Progress s ⟨now, f, e, happenings, f'⟩ (f.stopStage? s) (f'.stopStage? s) := by
  -- A shutdown that is not this one leaves this one where it is.
  have moved {k : Nat} {stop : Stop} (next : Stop) (found : f.stops[k]? = some stop)
      (stages : f'.stopStage? s = (f.setStop k next).stopStage? s)
      (mine : k = s → Progress s ⟨now, f, e, happenings, f'⟩ (some stop.stage) (some next.stage))
      (other : k ≠ s → e ≠ .take s) :
      Progress s ⟨now, f, e, happenings, f'⟩ (f.stopStage? s) (f'.stopStage? s) := by
    rw [stages, stopStage?_setStop found]
    split
    · rename_i same
      subst same
      rw [stopStage?, found]
      exact mine rfl
    · rename_i different
      exact .stay (other (Ne.symm different))
  cases step with
  | spawn | refuse | suppress | claim | release => exact .stay nofun
  | work _ work => exact .stay (by cases work <;> nofun)
  | @callShutdown token =>
    simp only [stopStage?, List.getElem?_append]
    split
    · exact .stay nofun
    · rename_i outside
      rw [List.getElem?_eq_none (Nat.le_of_not_lt outside), List.getElem?_singleton]
      split
      · exact .call nofun
      · exact .stay nofun
  | @tell k r stop found called =>
    refine moved { stop with stage := .draining r } found rfl ?_ ?_
    · rintro rfl
      rw [called]
      exact .tell rfl rfl
    · simp
  | @request k stop found called =>
    refine moved { stop with stage := .returned true } found rfl ?_ ?_
    · rintro rfl
      rw [called]
      exact .find rfl rfl
    · simp
  | @stop k stop next e happenings found move =>
    refine moved next found rfl ?_ (by cases move <;> simp)
    rintro rfl
    cases move with
    | cancel => exact .stay nofun
    | observe draining idle =>
      rw [draining]
      exact .answer (.observes rfl idle)
    | expire draining fired =>
      rw [draining]
      exact .answer (.expires rfl found fired)

section
variable {now r : Nat} {f f' : Frame} {e : Event} {happenings : List Happening} {stage : RunStage}

theorem Step.stage_cases (step : Step now f e f' happenings) (here : f'.stage? r = some stage) :
    f.stage? r = some stage ∨ stage = .spawned ∨ e.run? = some r := by
  have set {i : Nat} {run next : Run} (found : f.runs[i]? = some run) (own : e.run? = some i)
      (here : (f.setRun i next).stage? r = some stage) :
      f.stage? r = some stage ∨ stage = .spawned ∨ e.run? = some r := by
    rw [stage?_setRun found] at here
    split at here
    · rename_i same
      exact .inr (.inr (same ▸ own))
    · exact .inl here
  cases step with
  | refuse found => exact set found rfl here
  | suppress found => exact set found rfl here
  | claim found => exact set found rfl here
  | release found => exact set found rfl here
  | work found work => exact set found work.run? here
  | spawn =>
    rw [stage?, List.getElem?_append] at here
    split at here
    · exact .inl here
    · rw [List.getElem?_singleton] at here
      split at here
      · exact .inr (.inl (Option.some.inj here).symm)
      · cases here
  | tell => exact .inl ((stage?_told rfl r).symm.trans here)
  | callShutdown | request | stop => exact .inl here

theorem Step.works (step : Step now f e f' happenings) (own : e.run? = some r)
    (here : f'.stage? r = some stage) (begun : stage ≠ .claimed) (going : stage ≠ .returned) :
    ∃ (run : Run) (address : Option String), f.runs[r]? = some run ∧
      run.Work r f.localAddress e stage address happenings ∧ f'.localAddress = address := by
  have put {i : Nat} {run next : Run} (found : f.runs[i]? = some run) (mine : i = r)
      (here : (f.setRun i next).stage? r = some stage) : stage = next.stage := by
    rw [stage?_setRun found, if_pos mine.symm] at here
    exact (Option.some.inj here).symm
  -- Of a run's own events only its work leaves it neither claimed nor returned.
  cases step with
  | claim found => exact (begun (put found (Option.some.inj own) here)).elim
  | refuse found => exact (going (put found (Option.some.inj own) here)).elim
  | suppress found => exact (going (put found (Option.some.inj own) here)).elim
  | release found => exact (going (put found (Option.some.inj own) here)).elim
  | work found work =>
    have mine := Option.some.inj (work.run?.symm.trans own)
    cases put found mine here
    subst mine
    exact ⟨_, _, found, work, rfl⟩
  | spawn | callShutdown | tell | request => cases own
  | stop _ move => cases move.run?.symm.trans own

theorem Step.to_left (step : Step now f e f' happenings) (own : e.run? = some r)
    (here : f'.stage? r = some .left) : e = .drain r ∨ ∃ failure, e = .fail r failure := by
  obtain ⟨run, address, -, work, -⟩ := step.works own here nofun nofun
  cases work with
  | fail => exact .inr ⟨_, rfl⟩
  | drain => exact .inl rfl

theorem Step.to_cleared (step : Step now f e f' happenings) (own : e.run? = some r)
    (here : f'.stage? r = some .cleared) :
    e = .clear r ∧ f'.localAddress = none ∧ f.stage? r = some .left := by
  obtain ⟨run, address, found, work, set⟩ := step.works own here nofun nofun
  cases work with
  | clear left => exact ⟨rfl, set, left ▸ stage?_of_found found⟩

theorem Step.of_release (step : Step now f (.release r) f' happenings) :
    f'.running = false ∧ f.stage? r = some .cleared := by
  cases step with
  | release found cleared => exact ⟨rfl, cleared ▸ stage?_of_found found⟩
  | work _ work => cases work
  | stop _ move => cases move

end

section
variable {id : FrameId} {bindAddress : String} {past : List Moment} {f : Frame} {r : Nat}

theorem Life.arrival {stage : RunStage} (life : Life (fresh id bindAddress) past f)
    (here : f.stage? r = some stage) (moved : stage ≠ .spawned) :
    ∃ before m after, past = before ++ m :: after ∧ m.event.run? = some r ∧
      m.after.stage? r = some stage := by
  induction life with
  | start => simp [stage?, fresh] at here
  | @step past f f' now e happenings life later stepped ih =>
    have put := (Step.of_step stepped).stage_cases here
    rcases put with before | spawned | own
    · obtain ⟨before, m, after, rfl, own, there⟩ := ih before
      exact ⟨before, m, after ++ [⟨now, f, e, happenings, f'⟩], by simp, own, there⟩
    · exact (moved spawned).elim
    · exact ⟨past, _, [], rfl, own, here⟩

end

end Frame

/-- A run has left its loop, cleared the address and let go of the frame, in this order. -/
def Departed (r : Nat) (past : List Moment) : Prop :=
  ∃ left cleared released : Moment, [left, cleared, released].Sublist past ∧
    (left.event = .drain r ∨ ∃ failure, left.event = .fail r failure) ∧
    (cleared.event = .clear r ∧ cleared.after.localAddress = none) ∧
    (released.event = .release r ∧ released.after.running = false)

/-- How a shutdown that took the lock at a moment came to its answer. -/
inductive Answer (s : Nat) (before : List Moment) (took : Moment) (rest : List Moment) : Bool → Prop where
  | idle (found : took.happenings = [.foundStopped s]) (nobody : ∀ r, ¬Holds r before) :
      Answer s before took rest true
  | drained {r : Nat} {between after : List Moment} {last : Moment}
      (split : rest = between ++ last :: after) (returns : last.event = .observe s)
      (holder : ∀ i, Holds i before ↔ i = r) (told : took.happenings = [.told s r])
      (stopping : (took.after.runs[r]?).map Run.told = some true)
      (departed : Departed r (before ++ took :: between))
      (released : ∃ m ∈ between, m.event = .release r) : Answer s before took rest true
  | expired {between after : List Moment} {last : Moment} {stop : Stop}
      (split : rest = between ++ last :: after) (returns : last.event = .expire s)
      (found : last.before.stops[s]? = some stop) (fired : stop.token.fired last.now = true) :
      Answer s before took rest false

namespace Frame

section
variable {id : FrameId} {bindAddress : String} {past : List Moment} {f : Frame} {r s : Nat}

theorem Life.account (life : Life (fresh id bindAddress) past f) (s : Nat) :
    Account s past (f.stopStage? s) := by
  induction life with
  | start =>
    have none : (fresh id bindAddress).stopStage? s = none := by simp [stopStage?, fresh]
    rw [none]
    exact .uncalled (by simp)
  | step life later stepped ih => exact ih.concat ((Step.of_step stepped).progress s)

theorem Life.departed (life : Life (fresh id bindAddress) past f) {m : Moment} (member : m ∈ past)
    (event : m.event = .release r) : Departed r past := by
  -- Back from the release: the run had cleared the address, and before that it had left its loop.
  obtain ⟨third, after₃, rfl⟩ := List.append_of_mem member
  obtain ⟨life, step⟩ := life.at_moment rfl
  obtain ⟨fallen, cleared⟩ := (event ▸ step).of_release
  obtain ⟨second, m₂, after₂, rfl, own₂, here₂⟩ := life.arrival cleared nofun
  obtain ⟨life, step⟩ := life.at_moment rfl
  obtain ⟨event₂, unbound, left⟩ := step.to_cleared own₂ here₂
  obtain ⟨first, m₁, after₁, rfl, own₁, here₁⟩ := life.arrival left nofun
  obtain ⟨-, step⟩ := life.at_moment rfl
  have one : [m₁].Sublist (first ++ m₁ :: after₁) := by simp
  have two : [m₁, m₂].Sublist (first ++ m₁ :: after₁ ++ m₂ :: after₂) := one.append (by simp)
  have three : [m₁, m₂, m].Sublist (first ++ m₁ :: after₁ ++ m₂ :: after₂ ++ m :: after₃) :=
    two.append (by simp)
  exact ⟨m₁, m₂, m, three, step.to_left own₁ here₁, ⟨event₂, unbound⟩, event, fallen⟩

theorem Life.released {more : List Moment} (life : Life (fresh id bindAddress) (past ++ more) f)
    (held : Holds r past) (idle : f.running = false) : ∃ m ∈ more, m.event = .release r := by
  -- Had it not, it would hold the frame still, and the flag would be up.
  refine Classical.byContradiction fun kept => ?_
  have holds : Holds r (past ++ more) := held.append fun m member event => kept ⟨m, member, event⟩
  cases idle.symm.trans (life.of_holds holds).1

theorem Life.told_holder {before after : List Moment} {m : Moment}
    (life : Life (fresh id bindAddress) past f) (split : past = before ++ m :: after)
    (event : m.event = .take s) (told : m.happenings = [.told s r]) : Holds r before := by
  obtain ⟨earlier, step⟩ := life.at_moment split
  rcases (event ▸ step).take_cases with ⟨_, busy, -⟩ | ⟨-, found, -⟩
  · obtain ⟨i, holds⟩ := earlier.holder busy
    cases told.symm.trans (life.tells_holder split event holds).1
    exact holds
  · cases told.symm.trans found

/-- The run that a shutdown told to stop departs before the shutdown sees the flag down. -/
theorem Life.drained {before between after : List Moment} {took last : Moment}
    (life : Life (fresh id bindAddress) past f)
    (atLock : Took s past before took (between ++ last :: after))
    (told : took.happenings = [.told s r]) (returns : last.event = .observe s)
    (idle : last.before.running = false) :
    Answer s before took (between ++ last :: after) true := by
  have holds := life.told_holder atLock.split atLock.event told
  have earlier := (life.at_moment atLock.split).1
  obtain ⟨-, runs⟩ := life.tells_holder atLock.split atLock.event holds
  have holder (i : Nat) : Holds i before ↔ i = r :=
    ⟨(earlier.of_holds holds).2.2 i, fun same => same ▸ holds⟩
  have stopping : (took.after.runs[r]?).map Run.told = some true := by
    obtain ⟨stage, here, -⟩ := (earlier.holds_iff r).mp holds
    obtain ⟨run, found, -⟩ := Option.map_eq_some_iff.mp here
    simp [runs, found]
  -- The flag is down at the last moment, so the run has released the frame between the two.
  have whole : past = (before ++ took :: between) ++ last :: after := by simp [atLock.split]
  have waited := (life.at_moment whole).1
  obtain ⟨m, member, released⟩ := waited.released holds idle
  have departed := waited.departed (List.mem_append_right _ member) released
  rcases List.mem_cons.mp member with rfl | between
  · cases atLock.event.symm.trans released
  · exact .drained rfl returns holder told stopping departed ⟨m, between, released⟩

/-- A shutdown that returns true was right to: the run that held the frame when it took the lock, if
there was one, was told to stop and departed before it returned. It returns false only when its token has
fired. -/
theorem Life.answer_sound (life : Life (fresh id bindAddress) past f) {stop : Stop} {graceful : Bool}
    (found : f.stops[s]? = some stop) (returned : stop.stage = .returned graceful) :
    ∃ before took rest, Took s past before took rest ∧ Answer s before took rest graceful := by
  have account := life.account s
  rw [stopStage?, found, Option.map_some, returned] at account
  cases account with
  | @found before rest took atLock found =>
    -- A run that held the frame would have been told.
    refine ⟨before, took, rest, atLock, .idle found fun r holds => ?_⟩
    obtain ⟨told, -⟩ := life.tells_holder atLock.split atLock.event holds
    cases found.symm.trans told
  | @answered before between after took last r _ atLock told returns =>
    refine ⟨before, took, _, atLock, ?_⟩
    cases returns with
    | expires event found fired => exact .expired rfl event found fired
    | observes event idle => exact life.drained atLock told event idle

end

/-- The other shutdown looks only after a third one has told the third run to stop, too. -/
def drainedTwice : List (Nat × Event) :=
  overlapping ++ [(11, .callShutdown { deadline := 60000 }), (11, .take 2), (12, .drain 2),
    (12, .clear 2), (12, .release 2), (12, .observe 2), (13, .observe 0)]

theorem answer_sound_drainedTwice :
    ∃ past f, (fresh (.ofName "a") "127.0.0.1:8080").live? 0 drainedTwice = some (past, f) ∧
      f.stops.map Stop.stage = [.returned true, .returned false, .returned true] ∧
      (∃ before took rest, Took 0 past before took rest ∧ Answer 0 before took rest true) ∧
      ∃ before took rest, Took 1 past before took rest ∧ Answer 1 before took rest false := by
  obtain ⟨past, f, lived⟩ :
      ∃ past f, (fresh (.ofName "a") "127.0.0.1:8080").live? 0 drainedTwice = some (past, f) := ⟨_, _, rfl⟩
  have stages : ((fresh (.ofName "a") "127.0.0.1:8080").live? 0 drainedTwice).map
      (·.2.stops.map Stop.stage) = some [.returned true, .returned false, .returned true] := by decide
  rw [lived] at stages
  have stages : f.stops.map Stop.stage = _ := Option.some.inj stages
  have life := Life.start.of_live? (by simp) lived
  have at_stage {s : Nat} {stage : StopStage} (here : (f.stops.map Stop.stage)[s]? = some stage) :
      ∃ stop, f.stops[s]? = some stop ∧ stop.stage = stage :=
    Option.map_eq_some_iff.mp (List.getElem?_map .. ▸ here)
  obtain ⟨first, found, graceful⟩ : ∃ stop, f.stops[0]? = some stop ∧ stop.stage = .returned true :=
    at_stage (by rw [stages]; rfl)
  obtain ⟨second, found', late⟩ : ∃ stop, f.stops[1]? = some stop ∧ stop.stage = .returned false :=
    at_stage (by rw [stages]; rfl)
  exact ⟨past, f, lived, stages, life.answer_sound found graceful, life.answer_sound found' late⟩

end Frame

end FrameHost.Http
