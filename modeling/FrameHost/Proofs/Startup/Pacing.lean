import FrameHost.Proofs.Past
import FrameHost.Proofs.Startup.Step

/-! The turns of a pass and their times.

A pass has one turn for each frame of the list that it took when it was called, whatever happens to the
frames and to the registry meanwhile. If time never passes what is due, a turn comes as many pauses after
the call as frames have been started by then; frames that are passed over take no time. -/

set_option autoImplicit false

namespace FrameHost.Startup

/-- What a pass met and did when it looked at a frame. -/
structure Look where
  time : Nat
  frame : Nat
  /-- What the frame said of itself at that time. -/
  running : Bool
  /-- The start that it was given. -/
  start : Option Nat
  deriving DecidableEq

def Happening.look? (running : Nat → Bool) (now p : Nat) : Happening → Option Look
  | .skipped q frame _ => if q = p then some ⟨now, frame, running frame, none⟩ else none
  | .dispatched q run frame _ => if q = p then some ⟨now, frame, running frame, some run⟩ else none
  | _ => none

/-- When a pass returned, and how many starts it counted. -/
def Happening.return? (now p : Nat) : Happening → Option (Nat × Nat)
  | .returned q count => if q = p then some (now, count) else none
  | _ => none

def dispatches (looks : List Look) : Nat := looks.countP fun look => look.start.isSome

/-- A turn of a pass that is due. -/
inductive Pass.Turn (running : Nat → Bool) (interval : Duration) (now run : Nat) (pass : Pass) :
    Pass → List Look → List (Nat × Nat) → Prop where
  | finish (through : pass.remaining = []) :
      Pass.Turn running interval now run pass { pass with stage := .returned } [] [(now, pass.dispatched)]
  | skip {frame : Nat} {rest : List Nat} (looks : pass.remaining = frame :: rest)
      (busy : running frame = true) :
      Pass.Turn running interval now run pass { pass with remaining := rest, stage := .looking }
        [⟨now, frame, true, none⟩] []
  | dispatch {frame : Nat} {rest : List Nat} (looks : pass.remaining = frame :: rest)
      (idle : running frame = false) :
      Pass.Turn running interval now run pass
        { remaining := rest
          dispatched := pass.dispatched + 1
          stage := .pausing (now + interval.millis) }
        [⟨now, frame, false, some run⟩] []

def Pass.Waits (pass : Pass) (later : Nat) : Prop :=
  match pass.stage with
  | .looking => False
  | .pausing wake => later ≤ wake
  | .returned => True

instance (pass : Pass) (later : Nat) : Decidable (pass.Waits later) := by
  unfold Pass.Waits
  split <;> infer_instance

/-- What a pass has done that was called at a time for so many frames. -/
structure Pacing (called size : Nat) (interval : Duration) (looks : List Look)
    (returns : List (Nat × Nat)) (pass : Pass) : Prop where
  /-- Every frame has one turn, in the order of registration. -/
  order : looks.map Look.frame ++ pass.remaining = List.range size
  /-- A frame is started exactly if it says at its turn that it is not running. -/
  decided : ∀ look ∈ looks, look.start.isSome = !look.running
  /-- No two turns give the same start. -/
  starts : (looks.filterMap Look.start).Pairwise (· < ·)
  /-- There is a pause after each start and none after a frame that is passed over. -/
  times : ∀ before look after, looks = before ++ look :: after →
    look.time = called + dispatches before * interval.millis
  /-- It returns once, after as many pauses as it has started frames, and says how many these are. -/
  returns : returns = if pass.stage = .returned then
    [(called + dispatches looks * interval.millis, dispatches looks)] else []
  through : pass.stage = .returned → pass.remaining = []

/-- A pass that keeps pace, at a time and with so many starts in all. -/
structure OnPace (called size : Nat) (interval : Duration) (looks : List Look)
    (returns : List (Nat × Nat)) (pass : Pass) (now runs : Nat) : Prop extends
    Pacing called size interval looks returns pass where
  counted : pass.dispatched = dispatches looks
  known : ∀ look ∈ looks, ∀ r ∈ look.start, r < runs
  due : match pass.stage with
    | .looking => now = called + dispatches looks * interval.millis
    | .pausing wake => wake = called + dispatches looks * interval.millis ∧ now ≤ wake
    | .returned => True

section
variable {registry : Registry} {running : Nat → Bool} {interval : Duration} {now p : Nat} {s s' : Starts}
  {e : Event} {happenings : List Happening} {pass pass' : Pass}

theorem passes_setPass {q : Nat} {next : Pass} (found : s.passes[q]? = some pass)
    (here : (s.passes.set q next)[p]? = some pass') :
    (q = p ∧ pass' = next) ∨ (q ≠ p ∧ s.passes[p]? = some pass') := by
  by_cases same : q = p
  · subst same
    rw [List.getElem?_set_self (List.getElem?_eq_some_iff.mp found).1] at here
    exact .inl ⟨rfl, (Option.some.inj here).symm⟩
  · rw [List.getElem?_set_ne same] at here
    exact .inr ⟨same, here⟩

/-- An event leaves a pass alone, calls it, or is a turn of it. -/
theorem Starts.Step.pass_cases (step : Starts.Step registry running interval now s e s' happenings)
    (here : s'.passes[p]? = some pass') :
    (s.passes[p]? = some pass' ∧ happenings.filterMap (Happening.look? running now p) = [] ∧
      happenings.filterMap (Happening.return? now p) = []) ∨
    (e = .call ∧ p = s.passes.length ∧ pass' = { remaining := List.range registry.size } ∧ happenings = []) ∨
    ∃ pass, s.passes[p]? = some pass ∧ pass.Due now ∧
      pass.Turn running interval now s.runs.length pass' (happenings.filterMap (Happening.look? running now p))
        (happenings.filterMap (Happening.return? now p)) := by
  cases step with
  | call =>
    rcases getElem?_concat_eq_some_iff.mp here with before | ⟨last, new⟩
    · exact .inl ⟨before, rfl, rfl⟩
    · exact .inr (.inl ⟨rfl, last, new.symm, rfl⟩)
  | finish found due through =>
    rcases passes_setPass found here with ⟨rfl, rfl⟩ | ⟨other, before⟩
    · refine .inr (.inr ⟨_, found, due, ?_⟩)
      simpa [List.filterMap_cons, Happening.look?, Happening.return?] using Pass.Turn.finish through
    · exact .inl ⟨before, rfl, List.filterMap_cons_none (if_neg other)⟩
  | skip found due looks registered busy =>
    rcases passes_setPass found here with ⟨rfl, rfl⟩ | ⟨other, before⟩
    · refine .inr (.inr ⟨_, found, due, ?_⟩)
      simpa [List.filterMap_cons, Happening.look?, Happening.return?, busy] using Pass.Turn.skip looks busy
    · exact .inl ⟨before, List.filterMap_cons_none (if_neg other), rfl⟩
  | dispatch found due looks registered idle =>
    rcases passes_setPass found here with ⟨rfl, rfl⟩ | ⟨other, before⟩
    · refine .inr (.inr ⟨_, found, due, ?_⟩)
      simpa [List.filterMap_cons, Happening.look?, Happening.return?, idle] using Pass.Turn.dispatch looks idle
    · exact .inl ⟨before, List.filterMap_cons_none (if_neg other), rfl⟩
  | beginRun => exact .inl ⟨here, rfl, rfl⟩
  | endRun => exact .inl ⟨here, rfl, rfl⟩

theorem Starts.Step.absent (step : Starts.Step registry running interval now s e s' happenings)
    (absent : s'.passes.length ≤ p) : s.passes.length ≤ p ∧
      happenings.filterMap (Happening.look? running now p) = [] ∧
      happenings.filterMap (Happening.return? now p) = [] := by
  have other {q : Nat} {pass next : Pass} (found : s.passes[q]? = some pass)
      (absent : (s.passes.set q next).length ≤ p) : s.passes.length ≤ p ∧ q ≠ p := by
    have bound := (List.getElem?_eq_some_iff.mp found).1
    rw [List.length_set] at absent
    omega
  cases step with
  | call => exact ⟨Nat.le_trans (by simp) absent, rfl, rfl⟩
  | finish found =>
    obtain ⟨still, apart⟩ := other found absent
    exact ⟨still, rfl, List.filterMap_cons_none (if_neg apart)⟩
  | skip found =>
    obtain ⟨still, apart⟩ := other found absent
    exact ⟨still, List.filterMap_cons_none (if_neg apart), rfl⟩
  | dispatch found =>
    obtain ⟨still, apart⟩ := other found absent
    exact ⟨still, List.filterMap_cons_none (if_neg apart), rfl⟩
  | beginRun => exact ⟨absent, rfl, rfl⟩
  | endRun => exact ⟨absent, rfl, rfl⟩

/-- A pass that is due can have its turn, and has one frame less to look at then, or returns. -/
theorem Starts.exists_turn (running : Nat → Bool) (interval : Duration) (found : s.passes[p]? = some pass)
    (due : pass.Due now) (registered : ∀ i ∈ pass.remaining, i < registry.size) : ∃ s' happenings pass',
      s.step registry running interval now (.turn p) = some (s', happenings) ∧ s'.passes[p]? = some pass' ∧
      (pass'.stage = .returned ∨ ∃ i, pass.remaining = i :: pass'.remaining) := by
  have bound := (List.getElem?_eq_some_iff.mp found).1
  have turns : s.step registry running interval now (.turn p) = s.turn registry running interval now p pass := by
    cases due with
    | looking stage => simp [Starts.step, found, stage]
    | woken stage elapsed => simp [Starts.step, found, stage, elapsed]
  rw [turns, Starts.turn.eq_def]
  cases remaining : pass.remaining with
  | nil => exact ⟨_, _, _, rfl, List.getElem?_set_self bound, .inl rfl⟩
  | cons i rest =>
    have here := List.getElem?_eq_getElem (registered i (remaining ▸ List.mem_cons_self))
    simp only [here, Option.bind_eq_bind, Option.bind_some]
    cases busy : running i with
    | true => exact ⟨_, _, _, rfl, List.getElem?_set_self bound, .inr ⟨i, rfl⟩⟩
    | false => exact ⟨_, _, _, rfl, List.getElem?_set_self bound, .inr ⟨i, rfl⟩⟩

theorem exists_dispatched_iff {r i : Nat} : (∃ id, .dispatched p r i id ∈ happenings) ↔
    ∃ look ∈ happenings.filterMap (Happening.look? running now p), look.start = some r ∧ look.frame = i := by
  constructor
  · rintro ⟨id, member⟩
    exact ⟨_, List.mem_filterMap.mpr ⟨_, member, if_pos rfl⟩, rfl, rfl⟩
  · rintro ⟨look, member, started, rfl⟩
    obtain ⟨happening, listed, looked⟩ := List.mem_filterMap.mp member
    cases happening with
    | skipped =>
      simp only [Happening.look?] at looked
      split at looked <;> cases looked
      cases started
    | dispatched q run frame id =>
      simp only [Happening.look?] at looked
      split at looked
      · rename_i own
        cases looked
        cases started
        exact ⟨id, own ▸ listed⟩
      · cases looked
    | _ => cases looked

theorem Starts.Step.look_start (step : Starts.Step registry running interval now s e s' happenings) {r : Nat}
    {look : Look} (member : look ∈ happenings.filterMap (Happening.look? running now p))
    (started : r ∈ look.start) : r < s'.runs.length := by
  obtain ⟨id, dispatched⟩ := exists_dispatched_iff.mpr ⟨look, member, started, rfl⟩
  cases step with
  | dispatch =>
    cases List.mem_singleton.mp dispatched
    simp
  | call => cases dispatched
  | _ => cases List.mem_singleton.mp dispatched

theorem Starts.Step.length_passes (step : Starts.Step registry running interval now s e s' happenings) :
    s'.passes.length = s.passes.length + if e = .call then 1 else 0 := by
  cases step <;> simp [Starts.setPass]

theorem Starts.Step.registered (step : Starts.Step registry running interval now s e s' happenings)
    {r i : Nat} {id : FrameId} (dispatched : .dispatched p r i id ∈ happenings) :
    registry.frames[i]? = some id := by
  cases step with
  | dispatch found due looks registered =>
    cases List.mem_singleton.mp dispatched
    exact registered
  | call => cases dispatched
  | _ => cases List.mem_singleton.mp dispatched

theorem Starts.Step.length_runs_le (step : Starts.Step registry running interval now s e s' happenings) :
    s.runs.length ≤ s'.runs.length := by
  cases step <;> simp [Starts.setPass]

end

section
variable {running : Nat → Bool} {called size : Nat} {interval : Duration} {looks more : List Look}
  {returns last : List (Nat × Nat)} {pass pass' : Pass} {now later runs runs' : Nat}

theorem dispatches_concat (look : Look) :
    dispatches (looks ++ [look]) = dispatches looks + if look.start.isSome then 1 else 0 := by
  simp [dispatches, List.countP_append, List.countP_cons]

theorem OnPace.new (now size : Nat) (interval : Duration) (runs : Nat) :
    OnPace now size interval [] [] { remaining := List.range size } now runs where
  order := rfl
  decided := nofun
  starts := .nil
  times := by simp
  returns := rfl
  through := nofun
  counted := rfl
  known := nofun
  due := by simp [dispatches]

theorem OnPace.more_runs (paced : OnPace called size interval looks returns pass now runs)
    (grown : runs ≤ runs') : OnPace called size interval looks returns pass now runs' :=
  { paced with known := fun look member r started => Nat.lt_of_lt_of_le (paced.known look member r started) grown }

theorem OnPace.time (paced : OnPace called size interval looks returns pass now runs) (due : pass.Due now) :
    now = called + dispatches looks * interval.millis := by
  have timely := paced.due
  cases due with
  | looking stage =>
    rw [stage] at timely
    exact timely
  | woken stage elapsed =>
    rw [stage] at timely
    obtain ⟨wakes, early⟩ := timely
    omega

theorem OnPace.unreturned (paced : OnPace called size interval looks returns pass now runs)
    (due : pass.Due now) : returns = [] := by
  rw [paced.returns, if_neg]
  cases due with
  | looking stage => rw [stage]; nofun
  | woken stage => rw [stage]; nofun

theorem OnPace.looked (paced : OnPace called size interval looks returns pass now runs) (due : pass.Due now)
    {look : Look} {rest : List Nat} {stage : Stage} (frames : pass.remaining = look.frame :: rest)
    (time : look.time = now) (decided : look.start.isSome = !look.running)
    (fresh : ∀ r ∈ look.start, runs ≤ r ∧ r < runs') (grown : runs ≤ runs')
    (goesOn : match stage with
      | .looking => now = called + dispatches (looks ++ [look]) * interval.millis
      | .pausing wake => wake = called + dispatches (looks ++ [look]) * interval.millis ∧ now ≤ wake
      | .returned => False) :
    OnPace called size interval (looks ++ [look]) returns
      { remaining := rest, dispatched := pass.dispatched + if look.start.isSome then 1 else 0, stage } now runs' where
  order := by
    rw [← paced.order, frames]
    simp
  decided := List.forall_mem_append.mpr ⟨paced.decided, List.forall_mem_singleton.mpr decided⟩
  starts := by
    rw [List.filterMap_append, List.pairwise_append]
    refine ⟨paced.starts, ?_, fun r old r' new => ?_⟩
    · cases given : look.start <;> simp [given]
    · -- Starts that were given before have numbers below that of the next start.
      obtain ⟨earlier, member, started⟩ := List.mem_filterMap.mp old
      obtain ⟨_, same, started'⟩ := List.mem_filterMap.mp new
      cases List.mem_singleton.mp same
      have known := paced.known earlier member r started
      have next := (fresh r' started').1
      omega
  times before look' after split := by
    rcases split_concat split with ⟨rfl, rfl, -⟩ | ⟨rest, -, same⟩
    · exact time.trans (paced.time due)
    · exact paced.times before look' rest same
  returns := by
    rw [paced.unreturned due, if_neg]
    rintro rfl
    exact goesOn
  through := by
    rintro rfl
    exact goesOn.elim
  counted := by rw [dispatches_concat, paced.counted]
  known := by
    refine List.forall_mem_append.mpr ⟨fun earlier member r started => ?_,
      List.forall_mem_singleton.mpr fun r started => ?_⟩
    · exact Nat.lt_of_lt_of_le (paced.known earlier member r started) grown
    · exact (fresh r started).2
  due := by
    cases stage with
    | looking => exact goesOn
    | pausing => exact goesOn
    | returned => trivial

theorem OnPace.turn (paced : OnPace called size interval looks returns pass now runs) (due : pass.Due now)
    (turn : pass.Turn running interval now runs pass' more last) (grown : runs ≤ runs')
    (bounded : ∀ look ∈ more, ∀ r ∈ look.start, r < runs') :
    OnPace called size interval (looks ++ more) (returns ++ last) pass' now runs' := by
  have time := paced.time due
  cases turn with
  | finish through =>
    rw [List.append_nil, paced.unreturned due]
    refine ⟨⟨?_, paced.decided, paced.starts, paced.times, ?_, fun _ => through⟩, paced.counted,
      (paced.more_runs grown).known, trivial⟩
    · rw [← paced.order]
    · rw [List.nil_append, if_pos rfl, ← time, paced.counted]
  | skip frames busy =>
    rw [List.append_nil]
    refine paced.looked due frames rfl rfl nofun grown ?_
    simpa [dispatches_concat] using time
  | dispatch frames idle =>
    rw [List.append_nil]
    refine paced.looked due frames rfl rfl (fun r started => ?_) grown ?_
    · cases started
      exact ⟨Nat.le_refl _, bounded _ (List.mem_singleton.mpr rfl) _ rfl⟩
    · simp only [dispatches_concat, Option.isSome_some, if_true, Nat.add_mul, Nat.one_mul]
      omega

theorem OnPace.wait (paced : OnPace called size interval looks returns pass now runs)
    (waits : pass.Waits later) : OnPace called size interval looks returns pass later runs := by
  refine { paced with due := ?_ }
  have timely := paced.due
  unfold Pass.Waits at waits
  split at waits
  · exact waits.elim
  · rename_i wake stage
    rw [stage] at timely
    exact ⟨timely.1, waits⟩
  · trivial

end

end FrameHost.Startup
