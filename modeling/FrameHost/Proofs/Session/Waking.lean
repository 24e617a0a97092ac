import FrameHost.Proofs.Session.Schedule
import FrameHost.Proofs.Tokens.Waits
import FrameHost.Session.Tokens

/-! A session with tokens, as what their holders do.

Between the steps of its caller a session rests. While the caller waits, tasks run and the clock jumps
until the caller is woken, which happens when what it waits for has come, no sooner and no later. The fuel
of this loop suffices: each round wakes the caller or uses up some of the load. -/

set_option autoImplicit false

namespace FrameHost.Session.Tokens

open FrameHost.Tokens (Scene Moment Timed Event)

def Canceller.fresh (c : Canceller) : Bool := c.due.isNone && !c.finished

namespace State

/-- How many rounds the tasks can still take. A new one is in the queue, then it may set a timer, and then it
comes to the queue once more. -/
def burden (s : State) : Nat := s.schedule.load + 2 * s.cancellers.countP Canceller.fresh

def Due (s : State) (task due : Nat) : Prop := ∃ c, s.cancellers[task - 1]? = some c ∧ c.due = some due

/-- The tasks and their timers are in order. -/
structure Tidy (s : State) : Prop where
  ordered : s.schedule.Ordered
  timed : ∀ t ∈ s.schedule.timers, t.owner ≠ 0 → s.Due t.owner t.due
  queued : ∀ task ∈ s.schedule.queue, ∀ d, s.Due task d → d ≤ s.now
  held : ∀ c ∈ s.cancellers, ∃ t, s.tokens.get? c.token = some t
  light : s.burden ≤ 3 * s.cancellers.length

/-- The caller is not waiting. -/
structure Rests (s : State) : Prop where
  tidy : s.Tidy
  waiting : s.waiting = none
  unwoken : s.schedule.mainWoken = false
  timers : ∀ t ∈ s.schedule.timers, t.owner ≠ 0

/-- Who waits for a token waits no longer than to its deadline. -/
def Expects (s : State) (w : Waiting) : Prop :=
  ∀ i, w.token = some i → ∃ t, s.tokens.get? i = some t ∧ t.deadline = w.due

def Cut (s : State) (w : Waiting) : Prop :=
  ∃ i t, w.token = some i ∧ s.tokens.get? i = some t ∧ t.cancelled = true

/-- The caller waits. It is woken if what it waits for has come, and else its timer is set. -/
structure Awaits (s : State) (w : Waiting) : Prop where
  waiting : s.waiting = some w
  token : s.Expects w
  woken : s.schedule.mainWoken = true ↔ w.due ≤ s.now ∨ s.Cut w
  timer : s.now < w.due → ⟨w.due, 0⟩ ∈ s.schedule.timers
  own : ∀ t ∈ s.schedule.timers, t.owner = 0 → t.due = w.due
  recent : s.now ≤ w.due

inductive Ran (s : State) (task : Nat) : State → Prop where
  | idle : Ran s task s
  | cancel {c : Canceller} (found : s.cancellers[task - 1]? = some c) :
      Ran s task (({ s with cancellers := s.cancellers.set (task - 1) { c with finished := true } }).cancel c.token)
  | sleep {c : Canceller} (found : s.cancellers[task - 1]? = some c) (unfinished : c.finished = false)
      (unset : c.due = none) :
      Ran s task { s with
        cancellers := s.cancellers.set (task - 1) { c with due := some (s.now + c.millis) }
        schedule := s.schedule.setTimer task (s.now + c.millis) }

end State

/-- The scene of a session, in which at most the wait of the caller is under way. -/
structure Mirrors (awaited : Option Nat) (s : State) (scene : Scene) : Prop where
  tokens : scene.tokens = s.tokens
  clock : scene.clock = s.clockNow
  waits : ∀ w ∈ scene.waits, w.ended = none → awaited = some w.token

def Meanwhile : Event → Prop
  | .cancel _ | .pass _ => True
  | _ => False

/-- One state comes from another by what happens while the caller waits. -/
def Follows (awaited : Option Nat) (s s' : State) : Prop :=
  ∀ scene, Mirrors awaited s scene → ∃ more scene', Timed scene more scene' ∧ Mirrors awaited s' scene' ∧
    scene'.waits = scene.waits ∧ ∀ m ∈ more, Meanwhile m.event

section
variable {awaited : Option Nat} {s s' s'' : State} {w : Waiting} {task j k : Nat} {c c' : Canceller} {t : Token}

theorem Follows.of_same (tokens : s'.tokens = s.tokens) (clock : s'.clockNow = s.clockNow) : Follows awaited s s' :=
  fun scene mirrors => ⟨[], scene, .start,
    ⟨mirrors.tokens.trans tokens.symm, mirrors.clock.trans clock.symm, mirrors.waits⟩, rfl, nofun⟩

theorem Follows.trans (first : Follows awaited s s') (second : Follows awaited s' s'') :
    Follows awaited s s'' := by
  intro scene mirrors
  obtain ⟨more, scene', timed, mirrors', same, quiet⟩ := first scene mirrors
  obtain ⟨rest, scene'', timed', mirrors'', same', quiet'⟩ := second scene' mirrors'
  refine ⟨more ++ rest, scene'', timed.append timed', mirrors'', same'.trans same, fun m member => ?_⟩
  exact (List.mem_append.mp member).elim (quiet m) (quiet' m)

theorem Follows.from_same (rest : Follows awaited s' s'') (tokens : s'.tokens = s.tokens)
    (clock : s'.clockNow = s.clockNow) : Follows awaited s s'' :=
  (Follows.of_same tokens clock).trans rest

theorem Follows.to_same (first : Follows awaited s s') (tokens : s''.tokens = s'.tokens)
    (clock : s''.clockNow = s'.clockNow) : Follows awaited s s'' :=
  first.trans (.of_same tokens clock)

namespace State

def watches (s : State) (token : Nat) : Bool :=
  (s.waiting.bind (·.token)).any fun i => s.tokens.family? i = s.tokens.family? token

theorem cancel_eq (s : State) (j : Nat) : s.cancel j =
    { s with
      tokens := s.tokens.cancel j
      schedule := { s.schedule with mainWoken := s.schedule.mainWoken || s.watches j } } := by
  simp only [cancel, watches, FrameHost.Tokens.family?_cancel]
  split
  · rename_i watched
    simp [watched, Schedule.wake]
  · rename_i unwatched
    rw [Bool.eq_false_iff.mpr unwatched, Bool.or_false]

theorem now_cancel : (s.cancel j).now = s.now := by
  rw [cancel_eq]
  rfl

theorem mainWoken_cancel : (s.cancel j).schedule.mainWoken = (s.schedule.mainWoken || s.watches j) := by
  rw [cancel_eq]

theorem exists_get?_cancel (there : ∃ t, s.tokens.get? k = some t) : ∃ t, (s.tokens.cancel j).get? k = some t := by
  obtain ⟨t, there⟩ := there
  exact ⟨_, by rw [FrameHost.Tokens.get?_cancel, there]; rfl⟩

theorem Tidy.cancel (tidy : s.Tidy) : (s.cancel j).Tidy := by
  rw [cancel_eq]
  exact ⟨⟨tidy.ordered.sorted, tidy.ordered.distinct, tidy.ordered.others⟩, tidy.timed, tidy.queued,
    fun c member => exists_get?_cancel (tidy.held c member), tidy.light⟩

theorem cut_cancel (waiting : s.waiting = some w) (token : s.Expects w) :
    (s.cancel j).Cut w ↔ s.Cut w ∨ s.watches j = true := by
  cases awaits : w.token with
  | none => simp [Cut, watches, waiting, awaits]
  | some i =>
    obtain ⟨t, there, -⟩ := token i awaits
    simp only [Cut, watches, waiting, awaits, cancel_eq, FrameHost.Tokens.get?_cancel, there, Option.some.injEq,
      Option.map_some, Option.bind_some, Option.any_some, decide_eq_true_eq, exists_and_left, exists_eq_left']
    by_cases own : s.tokens.family? j = s.tokens.family? i
    · simp [own, Token.cancel]
    · simp [own, Ne.symm own]

theorem Awaits.cancel (awaits : s.Awaits w) : (s.cancel j).Awaits w := by
  have cut := cut_cancel (j := j) awaits.waiting awaits.token
  constructor
  · rw [cancel_eq]
    exact awaits.waiting
  · intro i named
    obtain ⟨t, there, due⟩ := awaits.token i named
    rw [cancel_eq]
    refine ⟨_, (FrameHost.Tokens.get?_cancel ..).trans (congrArg _ there), ?_⟩
    dsimp only
    split <;> exact due
  · rw [mainWoken_cancel, Bool.or_eq_true, awaits.woken, cut, now_cancel, or_assoc]
  · rw [cancel_eq]
    exact awaits.timer
  · rw [cancel_eq]
    exact awaits.own
  · rw [now_cancel]
    exact awaits.recent

theorem step?_cancel {scene : Scene} (mirrors : Mirrors awaited s scene) (there : s.tokens.get? j = some t) :
    ∃ scene', scene.step? (.cancel j) = some scene' ∧ Mirrors awaited (s.cancel j) scene' ∧
      scene'.waits = scene.waits := by
  obtain ⟨f, family, -⟩ := FrameHost.Tokens.get?_eq_some_iff.mp there
  refine ⟨{ scene with tokens := scene.tokens.cancel j }, ?_, ⟨?_, ?_, mirrors.waits⟩, rfl⟩
  · simp [Scene.step?, mirrors.tokens, family]
  · rw [cancel_eq, mirrors.tokens]
  · rw [cancel_eq]
    exact mirrors.clock

theorem follows_cancel (there : s.tokens.get? j = some t) : Follows awaited s (s.cancel j) := by
  intro scene mirrors
  obtain ⟨scene', stepped, mirrors', same⟩ := step?_cancel mirrors there
  refine ⟨[⟨scene, .cancel j⟩], scene', .single stepped, mirrors', same, fun m member => ?_⟩
  cases List.mem_singleton.mp member
  trivial

theorem burden_cancel : (s.cancel j).burden = s.burden := by
  rw [cancel_eq]
  rfl

theorem countP_fresh_set (found : s.cancellers[k]? = some c) (stale : c'.fresh = false) :
    (s.cancellers.set k c').countP Canceller.fresh + (if c.fresh = true then 1 else 0) =
      s.cancellers.countP Canceller.fresh := by
  obtain ⟨bound, here⟩ := List.getElem?_eq_some_iff.mp found
  rw [List.countP_set bound, here, stale]
  by_cases fresh : c.fresh = true
  · have counted : 0 < s.cancellers.countP Canceller.fresh :=
      List.countP_pos_iff.mpr ⟨c, List.mem_of_getElem? found, fresh⟩
    simp only [fresh, if_true, Bool.false_eq_true, if_false]
    omega
  · simp [fresh]

theorem burden_finish (found : s.cancellers[k]? = some c) :
    burden { s with cancellers := s.cancellers.set k { c with finished := true } } ≤ s.burden := by
  have stale : Canceller.fresh { c with finished := true } = false := by simp [Canceller.fresh]
  have counted := countP_fresh_set found stale
  simp only [burden]
  omega

theorem burden_sleep {due : Nat} (found : s.cancellers[k]? = some c) (unfinished : c.finished = false)
    (unset : c.due = none) :
    burden { s with
      cancellers := s.cancellers.set k { c with due := some due }
      schedule := s.schedule.setTimer (k + 1) due } = s.burden := by
  have fresh : c.fresh = true := by simp [Canceller.fresh, unset, unfinished]
  have stale : Canceller.fresh { c with due := some due } = false := rfl
  have counted := countP_fresh_set found stale
  rw [if_pos fresh] at counted
  simp only [burden, Schedule.load_setTimer, Nat.add_one_ne_zero, if_false]
  omega

theorem Tidy.held_set (tidy : s.Tidy) (found : s.cancellers[k]? = some c) (token : c'.token = c.token) :
    ∀ x ∈ s.cancellers.set k c', ∃ t, s.tokens.get? x.token = some t := by
  intro x member
  rcases List.mem_or_eq_of_mem_set member with old | rfl
  · exact tidy.held x old
  · rw [token]
    exact tidy.held c (List.mem_of_getElem? found)

theorem Tidy.finish (tidy : s.Tidy) (found : s.cancellers[k]? = some c) :
    Tidy { s with cancellers := s.cancellers.set k { c with finished := true } } := by
  obtain ⟨bound, here⟩ := List.getElem?_eq_some_iff.mp found
  have due : ∀ task d, Due { s with cancellers := s.cancellers.set k { c with finished := true } } task d ↔
      s.Due task d := by
    intro task d
    simp only [Due, List.getElem?_set]
    by_cases own : k = task - 1
    · simp [← own, bound, here]
    · simp [own]
  constructor
  · exact tidy.ordered
  · exact fun t member other => (due ..).mpr (tidy.timed t member other)
  · exact fun task member d set => tidy.queued task member d ((due ..).mp set)
  · exact tidy.held_set found rfl
  · rw [List.length_set]
    exact Nat.le_trans (burden_finish found) tidy.light

theorem Tidy.sleep {due : Nat} (tidy : s.Tidy) (found : s.cancellers[k]? = some c) (unfinished : c.finished = false)
    (unset : c.due = none) (popped : k + 1 ∉ s.schedule.queue) :
    Tidy { s with
      cancellers := s.cancellers.set k { c with due := some due }
      schedule := s.schedule.setTimer (k + 1) due } := by
  obtain ⟨bound, here⟩ := List.getElem?_eq_some_iff.mp found
  constructor
  · exact tidy.ordered.setTimer
  · intro t member other
    rcases Schedule.mem_insertTimer.mp member with rfl | old
    · exact ⟨_, List.getElem?_set_self bound, rfl⟩
    · obtain ⟨x, there, set⟩ := tidy.timed t old other
      have apart : k ≠ t.owner - 1 := by
        rintro rfl
        cases found.symm.trans there
        exact nomatch unset.symm.trans set
      exact ⟨x, (List.getElem?_set_ne apart).trans there, set⟩
  · rintro task member d ⟨x, there, set⟩
    have other := tidy.ordered.others task member
    have apart : k ≠ task - 1 := by
      intro same
      have own : task = k + 1 := by omega
      exact popped (own ▸ member)
    exact tidy.queued task member d ⟨x, (List.getElem?_set_ne apart).symm.trans there, set⟩
  · exact tidy.held_set found rfl
  · rw [List.length_set, burden_sleep found unfinished unset]
    exact tidy.light

/-- What the tasks and the clock do while the caller waits. -/
structure Leads (w : Waiting) (s s' : State) : Prop where
  tidy : s'.Tidy
  awaits : s'.Awaits w
  follows : Follows w.token s s'
  burden : s'.burden ≤ s.burden

theorem Leads.trans (first : Leads w s s') (second : Leads w s' s'') : Leads w s s'' :=
  ⟨second.tidy, second.awaits, first.follows.trans second.follows, Nat.le_trans second.burden first.burden⟩

theorem Leads.refl (tidy : s.Tidy) (awaits : s.Awaits w) : Leads w s s :=
  ⟨tidy, awaits, .of_same rfl rfl, Nat.le_refl _⟩

theorem ran_runTask (ready : ∀ d, s.Due task d → d ≤ s.now) : s.Ran task (s.runTask task) := by
  unfold runTask
  split
  · exact .idle
  · rename_i c found
    split
    · exact .idle
    · rename_i unfinished
      dsimp only
      split
      · exact .cancel found
      · rename_i ahead
        have unset : c.due = none := by
          cases set : c.due with
          | none => rfl
          | some d => exact (ahead (by rw [set]; exact ready d ⟨c, found, set⟩)).elim
        simp only [unset, Option.getD_none]
        exact .sleep found (by simpa using unfinished) unset

theorem Ran.leads (ran : s.Ran task s') (tidy : s.Tidy) (awaits : s.Awaits w) (other : task ≠ 0)
    (popped : task ∉ s.schedule.queue) : Leads w s s' := by
  cases ran with
  | idle => exact .refl tidy awaits
  | @cancel c found =>
    obtain ⟨t, there⟩ := tidy.held c (List.mem_of_getElem? found)
    have still : Awaits { s with cancellers := s.cancellers.set (task - 1) { c with finished := true } } w :=
      ⟨awaits.waiting, awaits.token, awaits.woken, awaits.timer, awaits.own, awaits.recent⟩
    refine ⟨(tidy.finish found).cancel, still.cancel, ?_, ?_⟩
    · have cancels : Follows w.token
          { s with cancellers := s.cancellers.set (task - 1) { c with finished := true } } _ := follows_cancel there
      exact cancels.from_same rfl rfl
    · rw [burden_cancel]
      exact burden_finish found
  | @sleep c found unfinished unset =>
    obtain ⟨k, rfl⟩ := Nat.exists_eq_succ_of_ne_zero other
    change s.cancellers[k]? = some c at found
    refine ⟨tidy.sleep found unfinished unset popped, ?_, .of_same rfl rfl, ?_⟩
    · refine ⟨awaits.waiting, awaits.token, awaits.woken, fun before => ?_, fun t member main => ?_, awaits.recent⟩
      · exact Schedule.mem_insertTimer.mpr (.inr (awaits.timer before))
      · rcases Schedule.mem_insertTimer.mp member with rfl | old
        · exact (other main).elim
        · exact awaits.own t old main
    · exact Nat.le_of_eq (burden_sleep found unfinished unset)

theorem leads_turn {rest : List Nat} (tidy : s.Tidy) (awaits : s.Awaits w) (queue : s.schedule.queue = task :: rest) :
    Leads w s (runTask { s with schedule := { s.schedule with queue := rest } } task) ∧
      (runTask { s with schedule := { s.schedule with queue := rest } } task).burden < s.burden := by
  have distinct := tidy.ordered.distinct
  have others := tidy.ordered.others
  have queued := tidy.queued
  -- The task leaves the queue before it runs, which makes up for what it may leave behind.
  have lighter : burden { s with schedule := { s.schedule with queue := rest } } + 1 = s.burden := by
    simp only [burden, Schedule.load, queue, List.length_cons]
    omega
  have light := tidy.light
  rw [queue] at distinct others queued
  obtain ⟨popped, distinct⟩ := List.nodup_cons.mp distinct
  have before : Tidy { s with schedule := { s.schedule with queue := rest } } := by
    refine ⟨⟨tidy.ordered.sorted, distinct, fun x member => others x (List.mem_cons_of_mem _ member)⟩, tidy.timed,
      fun x member => queued x (List.mem_cons_of_mem _ member), tidy.held, ?_⟩
    change burden _ ≤ 3 * s.cancellers.length
    omega
  have waiting : Awaits { s with schedule := { s.schedule with queue := rest } } w :=
    ⟨awaits.waiting, awaits.token, awaits.woken, awaits.timer, awaits.own, awaits.recent⟩
  have ran : Ran { s with schedule := { s.schedule with queue := rest } } task _ :=
    ran_runTask (queued task List.mem_cons_self)
  have leads := ran.leads before waiting (others task List.mem_cons_self) popped
  have less := leads.burden
  exact ⟨⟨leads.tidy, leads.awaits, leads.follows.from_same rfl rfl, by omega⟩, by omega⟩

theorem runQueue_leads (n : Nat) (tidy : s.Tidy) (awaits : s.Awaits w) :
    Leads w s (runQueue n s) ∧ (0 < n → s.schedule.queue ≠ [] → (runQueue n s).burden < s.burden) := by
  induction n generalizing s with
  | zero => exact ⟨.refl tidy awaits, nofun⟩
  | succ n ih =>
    cases queue : s.schedule.queue with
    | nil =>
      simp only [runQueue, Schedule.next?, queue]
      exact ⟨.refl tidy awaits, fun _ full => (full rfl).elim⟩
    | cons task rest =>
      obtain ⟨first, less⟩ := leads_turn tidy awaits queue
      obtain ⟨more, -⟩ := ih first.tidy first.awaits
      simp only [runQueue, Schedule.next?, queue]
      exact ⟨first.trans more, fun _ _ => Nat.lt_of_le_of_lt more.burden less⟩

theorem runQueue_of_empty (n : Nat) (empty : s.schedule.queue = []) : runQueue n s = s := by
  cases n with
  | zero => rfl
  | succ n => simp only [runQueue, Schedule.next?, empty]

theorem follows_pass {schedule : Schedule} (token : s.Expects w) (early : s.now < w.due) (uncut : ¬s.Cut w)
    (later : s.now ≤ schedule.now) (bound : schedule.now ≤ w.due) :
    Follows w.token s { s with schedule } := by
  intro scene mirrors
  have now : scene.now = s.now := congrArg Clock.now mirrors.clock
  have free : ∀ x ∈ scene.waits, x.ended = none → scene.fired x.token = false ∧
      ∃ t, scene.tokens.get? x.token = some t ∧ scene.now + (schedule.now - s.now) ≤ t.deadline := by
    intro x member pending
    have named := mirrors.waits x member pending
    obtain ⟨t, there, due⟩ := token x.token named
    have uncancelled : t.cancelled = false :=
      Bool.eq_false_iff.mpr fun cancelled => uncut ⟨x.token, t, named, there, cancelled⟩
    rw [Scene.fired, mirrors.tokens, there, now]
    refine ⟨?_, t, rfl, by omega⟩
    simpa [Token.fired, uncancelled, due] using early
  refine ⟨[⟨scene, .pass (schedule.now - s.now)⟩], _, .single (Scene.step?_pass free),
    ⟨mirrors.tokens, ?_, mirrors.waits⟩, rfl, fun m member => ?_⟩
  · rw [now, mirrors.clock, Nat.add_sub_cancel' later]
    rfl
  · cases List.mem_singleton.mp member
    trivial

/-- The clock jumps if no task can run and the caller is not woken. Its timer keeps the clock from jumping over
the time it waits for. -/
theorem advance_leads (tidy : s.Tidy) (awaits : s.Awaits w) (early : s.now < w.due) (uncut : ¬s.Cut w) :
    ∃ schedule, s.schedule.advance? = some schedule ∧ Leads w s { s with schedule } ∧
      (w.due ≤ schedule.now ∨ burden { s with schedule } < s.burden) := by
  have own := awaits.timer early
  obtain ⟨schedule, advanced⟩ := Schedule.exists_advance? own
  have jump := tidy.ordered.jump advanced
  have bound : schedule.now ≤ w.due := by
    have reach := jump.bound _ own
    rwa [max_eq_right (Nat.le_of_lt early : s.schedule.now ≤ w.due)] at reach
  have woken : schedule.mainWoken = true ↔ w.due ≤ schedule.now := by
    rw [jump.woken, awaits.woken]
    constructor
    · rintro ((come | cut) | ⟨t, member, main, come⟩)
      · exact absurd come (Nat.not_le.mpr early)
      · exact (uncut cut).elim
      · rwa [awaits.own t member main] at come
    · exact fun come => .inr ⟨_, own, rfl, come⟩
  have less : schedule.load ≤ s.schedule.load := jump.load.elim And.right Nat.le_of_lt
  refine ⟨schedule, advanced, ⟨?_, ?_, ?_, ?_⟩, ?_⟩
  -- A task is queued by a jump only if its timer has fired, which was set to the time that it chose.
  · refine ⟨jump.ordered, fun t member => tidy.timed t ((jump.timers t).mp member).1, ?_, tidy.held, ?_⟩
    · rintro task member d ⟨c, found, set⟩
      rcases (jump.queue task).mp member with old | ⟨t, there, rfl, other, come⟩
      · exact Nat.le_trans (tidy.queued task old d ⟨c, found, set⟩) jump.later
      · obtain ⟨c', found', set'⟩ := tidy.timed t there other
        cases found.symm.trans found'
        cases set.symm.trans set'
        exact come
    · have light := tidy.light
      simp only [burden] at light ⊢
      omega
  · refine ⟨awaits.waiting, awaits.token, ?_, fun before => ?_, fun t member => ?_, bound⟩
    · exact woken.trans (or_iff_left uncut).symm
    · exact (jump.timers _).mpr ⟨own, before⟩
    · exact awaits.own t ((jump.timers t).mp member).1
  · exact follows_pass awaits.token early uncut jump.later bound
  · simp only [burden]
    omega
  · rcases jump.load with ⟨called, -⟩ | lighter
    · exact .inl (woken.mp called)
    · refine .inr ?_
      simp only [burden]
      omega

theorem ready_iff (token : s.Expects w) : s.ready w = true ↔ w.due ≤ s.now ∨ s.Cut w := by
  rw [ready, Bool.or_eq_true, decide_eq_true_iff]
  cases awaits : w.token with
  | none => simp [Cut, awaits]
  | some i =>
    obtain ⟨t, there, due⟩ := token i awaits
    simp only [Cut, awaits, fired, there, due, Token.fired, Option.any_some, Bool.or_eq_true, decide_eq_true_eq,
      Option.some.injEq, exists_and_left, exists_eq_left']
    rw [← or_assoc, or_right_comm, or_self]

/-- The fuel suffices: the caller goes on when what it waits for has come. -/
theorem sleepUntilReady_leads (fuel : Nat) (tidy : s.Tidy) (awaits : s.Awaits w) (some : 0 < fuel)
    (enough : s.ready w = false → s.burden + 2 ≤ fuel) :
    ∃ last, Leads w s last ∧ last.ready w = true ∧ sleepUntilReady fuel w s =
      { last with waiting := none, schedule := { last.schedule.dropTimers 0 with mainWoken := false } } := by
  induction fuel generalizing s with
  | zero => exact nomatch some
  | succ fuel ih =>
    unfold sleepUntilReady
    -- The main task is woken exactly when it can go on, so that no round is spent on a wakening for nothing.
    have woken := awaits.woken.trans (ready_iff awaits.token).symm
    cases ready : s.ready w with
    | true =>
      rw [if_pos ⟨woken.mpr ready, rfl⟩]
      exact ⟨s, .refl tidy awaits, ready, rfl⟩
    | false =>
      have unwoken : s.schedule.mainWoken = false := Bool.eq_false_iff.mpr fun up => by
        exact nomatch (woken.mp up).symm.trans ready
      have same : { s with schedule := { s.schedule with mainWoken := false } } = s := by
        rw [← unwoken]
      have fueled := enough ready
      rw [if_neg (by simp), same]
      obtain ⟨ran, less⟩ := runQueue_leads Schedule.round tidy awaits
      have lighter := ran.burden
      dsimp only
      split
      · rename_i idle
        have unready : ¬(w.due ≤ (runQueue Schedule.round s).now ∨ (runQueue Schedule.round s).Cut w) := by
          rw [← ran.awaits.woken]
          simpa using idle.2
        obtain ⟨early, uncut⟩ := not_or.mp unready
        obtain ⟨schedule, advanced, jumped, progress⟩ :=
          advance_leads ran.tidy ran.awaits (Nat.lt_of_not_le early) uncut
        rw [advanced]
        obtain ⟨last, more, there, same⟩ := ih jumped.tidy jumped.awaits (by omega) fun unready => by
          rcases progress with come | lighter'
          · exact nomatch ((ready_iff jumped.awaits.token).mpr (.inl come)).symm.trans unready
          · omega
        exact ⟨last, (ran.trans jumped).trans more, there, same⟩
      · rename_i busy
        obtain ⟨last, more, there, same⟩ := ih ran.tidy ran.awaits (by omega) fun unready => by
          -- Had no task run, the clock would have jumped.
          have full : s.schedule.queue ≠ [] := by
            intro empty
            rw [runQueue_of_empty _ empty, empty, unwoken] at busy
            exact busy ⟨rfl, rfl⟩
          have less := less (by decide) full
          omega
        exact ⟨last, ran.trans more, there, same⟩

theorem Tidy.rests (tidy : s.Tidy) : Rests
    { s with waiting := none, schedule := { s.schedule.dropTimers 0 with mainWoken := false } } := by
  have ordered := tidy.ordered
  refine ⟨⟨⟨ordered.sorted.filter _, ordered.distinct, ordered.others⟩, fun t member => ?_, tidy.queued,
    tidy.held, ?_⟩, rfl, rfl, fun t member => ?_⟩
  · exact tidy.timed t (List.mem_of_mem_filter member)
  · have light := tidy.light
    rwa [burden, ← Schedule.load_dropTimers] at light
  · simpa using (List.mem_filter.mp member).2

theorem Rests.wait (rests : s.Rests) (token : s.Expects w) :
    (s.wait w).Rests ∧ Follows w.token s (s.wait w) ∧ (s.wait w).ready w = true ∧
      (s.wait w).now ≤ max s.now w.due := by
  unfold State.wait
  split
  · rename_i ready
    exact ⟨rests, .of_same rfl rfl, ready, Nat.le_max_left ..⟩
  · rename_i unready
    obtain ⟨early, uncut⟩ := not_or.mp fun come => unready ((ready_iff token).mpr come)
    have light := rests.tidy.light
    have same : burden { s with waiting := some w, schedule := s.schedule.setTimer 0 w.due } = s.burden := by
      simp only [burden, Schedule.load_setTimer, if_true, Nat.add_zero]
    have tidy : Tidy { s with waiting := some w, schedule := s.schedule.setTimer 0 w.due } := by
      refine ⟨rests.tidy.ordered.setTimer, fun t member other => ?_, rests.tidy.queued, rests.tidy.held, ?_⟩
      · rcases Schedule.mem_insertTimer.mp member with rfl | old
        · exact (other rfl).elim
        · exact rests.tidy.timed t old other
      · exact Nat.le_trans (Nat.le_of_eq same) light
    have awaits : Awaits { s with waiting := some w, schedule := s.schedule.setTimer 0 w.due } w := by
      refine ⟨rfl, token, ?_, fun _ => Schedule.mem_insertTimer.mpr (.inl rfl), fun t member main => ?_,
        Nat.le_of_not_le early⟩
      · exact iff_of_false (by simp [Schedule.setTimer, rests.unwoken]) fun come => come.elim early uncut
      · rcases Schedule.mem_insertTimer.mp member with rfl | old
        · rfl
        · exact (rests.timers t old main).elim
    obtain ⟨last, leads, ready, went⟩ := sleepUntilReady_leads (4 * s.cancellers.length + 4) tidy awaits
      (by omega) fun _ => by omega
    dsimp only
    rw [went]
    have follows : Follows w.token s last := leads.follows.from_same rfl rfl
    refine ⟨leads.tidy.rests, follows.to_same rfl rfl, ready, ?_⟩
    · exact Nat.le_trans leads.awaits.recent (Nat.le_max_right ..)

end State

end

end FrameHost.Session.Tokens
