import FrameHost.Proofs.Http.Life

/-! Who owns an HTTP frame.

A run claims the frame under the lock but releases it without the lock, and the flag, the address and
the run that a shutdown would tell to stop change at different moments. `Ownership` ties them
together: every event keeps it, so it holds at every moment of a life. `Holds` says the same of what
has happened: a run holds the frame from its claim to its release. -/

set_option autoImplicit false

namespace FrameHost.Http

section
variable {r : Nat} {run : Run} {address address' : Option String} {e : Event} {stage : RunStage}
  {happenings : List Happening}

theorem Run.Work.owns (work : run.Work r address e stage address' happenings) :
    run.stage.owns = true ∧ stage.owns = true := by
  cases work with
  | bind claimed => simp [claimed, RunStage.owns]
  | fail inside => rcases inside with claimed | serving <;> simp [*, RunStage.owns]
  | drain serving => simp [serving, RunStage.owns]
  | clear left => simp [left, RunStage.owns]

theorem Run.Work.bound (work : run.Work r address e stage address' happenings) :
    address' ≠ none → stage = .serving ∨ stage = .left := by
  intro now
  cases work with
  | bind => exact .inl rfl
  | fail => exact .inr rfl
  | drain => exact .inr rfl
  | clear => exact (now rfl).elim

end

namespace Frame

def stage? (f : Frame) (r : Nat) : Option RunStage := (f.runs[r]?).map Run.stage

/-- A run is between its claim and its release. -/
def Owns (f : Frame) (r : Nat) : Prop := ∃ stage, f.stage? r = some stage ∧ stage.owns = true

inductive Ownership (f : Frame) : Prop where
  | free (idle : f.running = false) (unbound : f.localAddress = none) (nobody : ∀ r, ¬f.Owns r)
  | owned {r : Nat} {stage : RunStage} (busy : f.running = true) (current : f.current = some r)
      (here : f.stage? r = some stage) (owns : stage.owns = true) (alone : ∀ i, f.Owns i → i = r)
      (bound : f.localAddress ≠ none → stage = .serving ∨ stage = .left)

section
variable {f f' : Frame} {r : Nat} {run next : Run}

theorem stage?_of_found (found : f.runs[r]? = some run) : f.stage? r = some run.stage := by
  simp [stage?, found]

theorem stage?_setRun (found : f.runs[r]? = some run) (next : Run) (i : Nat) :
    (f.setRun r next).stage? i = if i = r then some next.stage else f.stage? i := by
  by_cases same : i = r
  · subst same
    simp [stage?, setRun, (List.getElem?_eq_some_iff.mp found).1]
  · simp [stage?, setRun, same, Ne.symm same]

theorem stage?_told (runs : f'.runs = f.runs.modify r fun run => { run with told := true }) (i : Nat) :
    f'.stage? i = f.stage? i := by
  rw [stage?, runs, List.getElem?_modify, Option.map_eq_map, Option.map_map, stage?]
  have stays : (Run.stage ∘ fun run => if r = i then { run with told := true } else run) = Run.stage := by
    funext run
    change (if r = i then { run with told := true } else run : Run).stage = run.stage
    split <;> rfl
  rw [stays]

theorem owns_setRun (found : f.runs[r]? = some run) (next : Run) (i : Nat) :
    (f.setRun r next).Owns i ↔ if i = r then next.stage.owns = true else f.Owns i := by
  unfold Owns
  rw [stage?_setRun found]
  split <;> simp

theorem alone_setRun (found : f.runs[r]? = some run) (next : Run) (alone : ∀ i, f.Owns i → i = r) :
    ∀ i, (f.setRun r next).Owns i → i = r := by
  intro i owns
  have owns := (owns_setRun found next i).mp owns
  split at owns
  · assumption
  · exact alone i owns

theorem Ownership.of_owner (owned : f.Ownership) (found : f.runs[r]? = some run)
    (owns : run.stage.owns = true) :
    f.running = true ∧ f.current = some r ∧ (∀ i, f.Owns i → i = r) ∧
      (f.localAddress ≠ none → run.stage = .serving ∨ run.stage = .left) := by
  have owner : f.Owns r := ⟨run.stage, stage?_of_found found, owns⟩
  cases owned with
  | free _ _ nobody => exact (nobody r owner).elim
  | owned busy current here _ alone bound =>
    cases alone r owner
    cases (stage?_of_found found).symm.trans here
    exact ⟨busy, current, alone, bound⟩

/-- Two frames whose owners are the same, and at the same stages. -/
def SameOwners (f f' : Frame) : Prop :=
  ∀ i stage, stage.owns = true → (f'.stage? i = some stage ↔ f.stage? i = some stage)

theorem SameOwners.of_eq (same : ∀ i, f'.stage? i = f.stage? i) : SameOwners f f' :=
  fun i _ _ => by rw [same i]

theorem SameOwners.owns_iff (same : SameOwners f f') (i : Nat) : f'.Owns i ↔ f.Owns i :=
  exists_congr fun stage => and_congr_left fun owns => same i stage owns

theorem Ownership.of_same (owned : f.Ownership) (running : f'.running = f.running)
    (current : f'.current = f.current) (address : f'.localAddress = f.localAddress)
    (same : SameOwners f f') : f'.Ownership := by
  cases owned with
  | free idle unbound nobody =>
    exact .free (running.trans idle) (address.trans unbound) fun i owns =>
      nobody i ((same.owns_iff i).mp owns)
  | owned busy isCurrent here owns alone bound =>
    exact .owned (running.trans busy) (current.trans isCurrent) ((same _ _ owns).mpr here) owns
      (fun i also => alone i ((same.owns_iff i).mp also)) (address ▸ bound)

theorem sameOwners_spawn (f : Frame) : SameOwners f { f with runs := f.runs ++ [{}] } := by
  intro i stage owns
  rw [stage?, stage?, List.getElem?_append]
  split
  · rfl
  · -- What lies beyond the old runs is the new run, which owns nothing yet.
    rename_i outside
    rw [List.getElem?_eq_none (Nat.le_of_not_lt outside), List.getElem?_singleton]
    split
    · constructor <;> rintro ⟨⟩
      cases owns
    · rfl

theorem sameOwners_turnedAway (found : f.runs[r]? = some run) (spawned : run.stage = .spawned) :
    SameOwners f (f.setRun r { run with stage := .returned }) := by
  intro i stage owns
  rw [stage?_setRun found]
  split
  · rename_i same
    rw [same, stage?_of_found found, spawned]
    -- Neither of the two stages is one of an owner.
    constructor <;> rintro ⟨⟩ <;> cases owns
  · rfl

end

theorem Ownership.step {now : Nat} {f f' : Frame} {e : Event} {happenings : List Happening}
    (owned : f.Ownership) (step : Step now f e f' happenings) : f'.Ownership := by
  cases step with
  | spawn => exact owned.of_same rfl rfl rfl (sameOwners_spawn f)
  | refuse found spawned => exact owned.of_same rfl rfl rfl (sameOwners_turnedAway found spawned)
  | suppress found spawned => exact owned.of_same rfl rfl rfl (sameOwners_turnedAway found spawned)
  | @claim r run found spawned idle =>
    cases owned with
    | owned busy => cases idle.symm.trans busy
    | free _ unbound nobody =>
      exact .owned rfl rfl ((stage?_setRun found _ r).trans (if_pos rfl)) rfl
        (alone_setRun found _ fun i owns => (nobody i owns).elim) fun bound => (bound unbound).elim
  | work found work =>
    -- Who works was the owner, so the flag and the current run are still those of the owner.
    obtain ⟨busy, current, alone, -⟩ := owned.of_owner found work.owns.1
    exact .owned busy current ((stage?_setRun found _ _).trans (if_pos rfl)) work.owns.2
      (alone_setRun found _ alone) work.bound
  | @release r run found cleared =>
    obtain ⟨-, -, alone, bound⟩ := owned.of_owner found (by rw [cleared]; rfl)
    have unbound : f.localAddress = none := by
      cases address : f.localAddress with
      | none => rfl
      | some a => simp [address, cleared] at bound
    refine .free rfl unbound fun i owns => ?_
    -- Nobody but the run that leaves was an owner, and it is none any more.
    have last := alone_setRun found _ alone i owns
    have owns := (owns_setRun found { run with stage := .returned } i).mp owns
    rw [if_pos last] at owns
    cases owns
  | tell => exact owned.of_same rfl rfl rfl (.of_eq (stage?_told rfl))
  | callShutdown | request | stop => exact owned.of_same rfl rfl rfl fun _ _ _ => Iff.rfl

/-- An event makes a run an owner by its claim, and no longer one by its release. -/
theorem Step.owns_iff {now : Nat} {f f' : Frame} {e : Event} {happenings : List Happening}
    (step : Step now f e f' happenings) (i : Nat) :
    f'.Owns i ↔ happenings = [.claimed i] ∨ (f.Owns i ∧ e ≠ .release i) := by
  -- Only a claim that succeeds and a release change who owns the frame.
  have kept (same : f'.Owns i ↔ f.Owns i) (quiet : happenings ≠ [.claimed i]) (stays : e ≠ .release i) :
      f'.Owns i ↔ happenings = [.claimed i] ∨ (f.Owns i ∧ e ≠ .release i) := by
    simp [same, quiet, stays]
  cases step with
  | spawn => exact kept ((sameOwners_spawn f).owns_iff i) nofun nofun
  | refuse found spawned => exact kept ((sameOwners_turnedAway found spawned).owns_iff i) nofun nofun
  | suppress found spawned => exact kept ((sameOwners_turnedAway found spawned).owns_iff i) nofun nofun
  | tell => exact kept ((SameOwners.of_eq (stage?_told rfl)).owns_iff i) nofun nofun
  | callShutdown | request => exact kept Iff.rfl nofun nofun
  | stop _ move => exact kept Iff.rfl (by cases move <;> nofun) (by cases move <;> nofun)
  | @claim r run found =>
    refine (owns_setRun found { run with stage := .claimed } i).trans ?_
    by_cases same : i = r
    · simp [same, RunStage.owns]
    · simp [same, Ne.symm same]
  | @work r run e stage address happenings found work =>
    have owner : f.Owns r := ⟨run.stage, stage?_of_found found, work.owns.1⟩
    refine kept ((owns_setRun found { run with stage } i).trans ?_) (by cases work <;> nofun)
      (by cases work <;> nofun)
    split
    · rename_i same
      simp [same, owner, work.owns.2]
    · rfl
  | @release r run found =>
    refine (owns_setRun found { run with stage := .returned } i).trans ?_
    by_cases same : i = r
    · simp [same, RunStage.owns]
    · simp [same, Ne.symm same]

end Frame

/-- A run has claimed the frame and not released it since. -/
def Holds (r : Nat) : List Moment → Prop :=
  Since (fun m => m.happenings = [.claimed r]) (fun m => m.event = .release r)

namespace Frame

section
variable {id : FrameId} {bindAddress : String} {past : List Moment} {f : Frame}

theorem Life.ownership (life : Life (fresh id bindAddress) past f) : f.Ownership := by
  induction life with
  | start => exact .free rfl rfl fun r owns => by simp [Owns, stage?, fresh] at owns
  | step life later stepped ih => exact ih.step (Step.of_step stepped)

theorem Life.holds_iff (life : Life (fresh id bindAddress) past f) (r : Nat) :
    Holds r past ↔ f.Owns r := by
  induction life with
  | start =>
    have nobody : ¬(fresh id bindAddress).Owns r := by simp [Owns, stage?, fresh]
    exact iff_of_false not_since_nil nobody
  | step life later stepped ih =>
    rw [(Step.of_step stepped).owns_iff r, ← ih]
    exact since_concat

end

section
variable {now s : Nat} {f f' : Frame} {e : Event} {happenings : List Happening}

theorem Step.falls (step : Step now f e f' happenings) (busy : f.running = true)
    (idle : f'.running = false) : ∃ r, e = .release r ∧ f.stage? r = some .cleared := by
  cases step with
  | @release r run found cleared => exact ⟨r, rfl, cleared ▸ stage?_of_found found⟩
  | claim => cases idle
  | _ => cases busy.symm.trans idle

theorem Step.take_cases (step : Step now f (.take s) f' happenings) :
    (∃ r, f.running = true ∧ f.current = some r ∧ happenings = [.told s r] ∧
      f'.runs = f.runs.modify r fun run => { run with told := true }) ∨
    ((f.running = false ∨ f.current = none) ∧ happenings = [.foundStopped s] ∧ f'.runs = f.runs) := by
  cases step with
  | tell _ _ busy current => exact .inl ⟨_, busy, current, rfl, rfl⟩
  | request _ _ idle => exact .inr ⟨idle, rfl, rfl⟩
  | work _ work => cases work
  | stop _ move => cases move

end

/-- The turns of runs at a frame: what is seen of the frame, and what a shutdown does to it, is of the
run that holds it. -/
structure Turns (past : List Moment) (f : Frame) : Prop where
  alone {i j : Nat} : Holds i past → Holds j past → i = j
  running : f.running = true ↔ ∃ r, Holds r past
  bound : f.localAddress ≠ none → f.running = true
  current {r : Nat} : Holds r past → f.current = some r
  falls {before after : List Moment} {m : Moment} : past = before ++ m :: after →
    m.before.running = true → m.after.running = false →
      m.before.localAddress = none ∧ ∃ r, m.event = .release r ∧ Holds r before
  tells {before after : List Moment} {m : Moment} {s : Nat} : past = before ++ m :: after →
    m.event = .take s → m.before.running = true →
      ∃ r, Holds r before ∧ m.happenings = [.told s r] ∧
        m.after.runs = m.before.runs.modify r fun run => { run with told := true }
  spares {before after : List Moment} {m : Moment} {s : Nat} : past = before ++ m :: after →
    m.event = .take s → m.before.running = false →
      m.happenings = [.foundStopped s] ∧ m.after.runs = m.before.runs

section
variable {id : FrameId} {bindAddress : String} {past : List Moment} {f : Frame} {r : Nat}

theorem Life.of_holds (life : Life (fresh id bindAddress) past f) (holds : Holds r past) :
    f.running = true ∧ f.current = some r ∧ ∀ i, Holds i past → i = r := by
  have owns := (life.holds_iff r).mp holds
  cases life.ownership with
  | free _ _ nobody => exact (nobody r owns).elim
  | owned busy current _ _ alone =>
    cases alone r owns
    exact ⟨busy, current, fun i also => alone i ((life.holds_iff i).mp also)⟩

theorem Life.holder (life : Life (fresh id bindAddress) past f) (busy : f.running = true) :
    ∃ r, Holds r past := by
  cases life.ownership with
  | free idle => cases busy.symm.trans idle
  | owned _ _ here owns => exact ⟨_, (life.holds_iff _).mpr ⟨_, here, owns⟩⟩

theorem Life.tells_holder (life : Life (fresh id bindAddress) past f) {before after : List Moment}
    {m : Moment} {s : Nat} (split : past = before ++ m :: after) (event : m.event = .take s)
    (holds : Holds r before) :
    m.happenings = [.told s r] ∧
      m.after.runs = m.before.runs.modify r fun run => { run with told := true } := by
  obtain ⟨earlier, step⟩ := life.at_moment split
  obtain ⟨busy, current, -⟩ := earlier.of_holds holds
  -- The holder is the current run, so it is the one that is told.
  rcases (event ▸ step).take_cases with ⟨i, -, isCurrent, told, runs⟩ | ⟨idle | nobody, -⟩
  · cases current.symm.trans isCurrent
    exact ⟨told, runs⟩
  · cases busy.symm.trans idle
  · cases current.symm.trans nobody

theorem Life.turns (life : Life (fresh id bindAddress) past f) : Turns past f where
  alone i j := (life.of_holds j).2.2 _ i
  running := ⟨life.holder, fun ⟨_, holds⟩ => (life.of_holds holds).1⟩
  bound address := by
    cases life.ownership with
    | free _ unbound => exact (address unbound).elim
    | owned busy => exact busy
  current holds := (life.of_holds holds).2.1
  falls split busy idle := by
    obtain ⟨earlier, step⟩ := life.at_moment split
    obtain ⟨r, event, cleared⟩ := step.falls busy idle
    have owns : Owns _ r := ⟨_, cleared, rfl⟩
    cases earlier.ownership with
    | free _ _ nobody => exact (nobody r owns).elim
    | owned _ _ here _ alone bound =>
      -- The run that leaves has cleared the address.
      cases alone r owns
      cases here.symm.trans cleared
      exact ⟨Decidable.byContradiction fun address => by simpa using bound address, r, event,
        (earlier.holds_iff r).mpr owns⟩
  tells split event busy := by
    obtain ⟨r, holds⟩ := (life.at_moment split).1.holder busy
    exact ⟨r, holds, life.tells_holder split event holds⟩
  spares split event idle := by
    obtain ⟨-, step⟩ := life.at_moment split
    rcases (event ▸ step).take_cases with ⟨_, busy, -⟩ | ⟨-, found, runs⟩
    · cases idle.symm.trans busy
    · exact ⟨found, runs⟩

end

/-- A run is turned away, one of two shutdowns gives up on the run that they tell to stop, and a third
run claims the frame before the other shutdown looks. -/
def overlapping : List (Nat × Event) :=
  [(0, .spawn), (0, .spawn), (0, .claim 0), (1, .claim 1), (1, .bind 0 "127.0.0.1:8080"),
    (2, .callShutdown { deadline := 60000 }), (2, .callShutdown { deadline := 7 }), (3, .take 0),
    (3, .take 1), (7, .expire 1), (8, .drain 0), (8, .clear 0), (9, .release 0), (9, .spawn),
    (9, .claim 2), (10, .bind 2 "127.0.0.1:8080")]

theorem turns_overlapping :
    ∃ past f, (fresh (.ofName "a") "127.0.0.1:8080").live? 0 overlapping = some (past, f) ∧
      Turns past f ∧ f.running = true ∧
      f.runs.map Run.stage = [.returned, .returned, .serving] ∧
      f.stops.map Stop.stage = [.draining 0, .returned false] := by
  obtain ⟨past, f, lived⟩ :
      ∃ past f, (fresh (.ofName "a") "127.0.0.1:8080").live? 0 overlapping = some (past, f) := ⟨_, _, rfl⟩
  have ended : ((fresh (.ofName "a") "127.0.0.1:8080").live? 0 overlapping).map (fun life =>
      (life.2.running, life.2.runs.map Run.stage, life.2.stops.map Stop.stage)) =
        some (true, [.returned, .returned, .serving], [.draining 0, .returned false]) := by decide
  rw [lived] at ended
  have life := Life.start.of_live? (by simp) lived
  obtain ⟨running, runs, stops⟩ : f.running = true ∧ _ ∧ _ := by simpa using ended
  exact ⟨past, f, lived, life.turns, running, runs, stops⟩

end Frame

end FrameHost.Http
