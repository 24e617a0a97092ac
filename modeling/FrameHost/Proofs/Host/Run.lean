import FrameHost.Host
import FrameHost.Proofs.Shutdown.Run

/-! Runs of a host, and the runs of its controllers within them.

`Host.Parts` lists what an event does to the parts of a host. A controller is reached through its own
calls and through the trap; what a run of the host does to it is a run of that controller, in which
registrations and the clock move on between its events. -/

set_option autoImplicit false

namespace FrameHost.Host

/-- What an event does to a host, its metrics apart. -/
inductive Parts (h : Host) : Event → Host → List Happening → Prop where
  | registration {e : Registrar.Event} {registrar : Registrar}
      {happenings : List Registrar.Happening} (moved : h.registrar.step e = some (registrar, happenings)) :
      Parts h (.registration e)
        { h with
          registrar
          running := h.running ++ List.replicate (registrar.registry.size - h.running.length) false }
        (happenings.map .registration)
  | flag {frame : Nat} {running : Bool} :
      Parts h (.flag frame running) { h with running := h.running.set frame running } []
  | startup {e : Startup.Event} {starts : Startup.Starts} {happenings : List Startup.Happening}
      (moved : h.starts.step h.registry h.isRunningAt h.startInterval h.clock.now e =
        some (starts, happenings)) :
      Parts h (.startup e) { h with starts } (happenings.map .startup)
  | arm {e : Event} {c : Nat} {trap : Trap} {happenings : List Trap.Happening}
      (event : e = .trap (.arm c) ∨ ∃ p, e = .armAfter p ∧ c = 0)
      (moved : h.trap.step (.arm c) = some (trap, happenings)) :
      Parts h e { h with trap } (happenings.map .trap)
  | signal : Parts h (.trap .signal) { h with trap := { h.trap with signalled := true } } []
  | called {c : Nat} {s s' : Shutdown.Controller} {more : List Shutdown.Happening}
      (armed : h.trap.controller = some c) (found : h.controllers[c]? = some s)
      (asked : s.step h.registry h.clock (.request none) = some (s', more))
      (signalled : h.trap.signalled = true) (waits : h.trap.called = false) :
      Parts h (.trap .call)
        { h with trap := { h.trap with called := true }, controllers := h.controllers.set c s' }
        (.trap (.received c) :: more.map (.shutdown c))
  | addController {defaultTimeout : Duration} :
      Parts h (.addController defaultTimeout)
        { h with controllers := h.controllers ++ [{ defaultTimeout }] } []
  | shutdown {c : Nat} {e : Shutdown.Event} {s s' : Shutdown.Controller}
      {happenings : List Shutdown.Happening} (found : h.controllers[c]? = some s)
      (moved : s.step h.registry h.clock e = some (s', happenings)) :
      Parts h (.shutdown c e) { h with controllers := h.controllers.set c s' }
        (happenings.map (.shutdown c))
  | wait : Parts h .wait { h with waits := h.waits ++ [none] } []
  | look {w : Nat} {s : Shutdown.Controller} {report : Shutdown.Report} (own : h.controllers[0]? = some s)
      (published : s.published = some report) (waits : h.waits[w]? = some none) :
      Parts h (.look w) { h with waits := h.waits.set w (some report) } [.reported w report]
  | advance {now : Nat} (later : h.clock.now ≤ now) :
      Parts h (.advance now) { h with clock := { h.clock with now } } []

section
variable {h h' : Host} {e : Event} {happenings : List Happening}

theorem Parts.of_stepTrap {t : Trap.Event}
    (event : e = .trap t ∨ ∃ p, e = .armAfter p ∧ t = .arm 0)
    (stepped : h.stepTrap t = some (h', happenings)) : Parts h e h' happenings := by
  obtain ⟨⟨trap, trapped⟩, moved, stepped⟩ := Option.bind_eq_some_iff.mp stepped
  cases t with
  | arm c =>
    have source : e = .trap (.arm c) ∨ ∃ p, e = .armAfter p ∧ c = 0 := by
      rcases event with same | ⟨p, same, zero⟩
      · exact .inl same
      · cases zero
        exact .inr ⟨p, same, rfl⟩
    have through : trapped = [.refused] ∨ trapped = [.built, .armed c] := by
      simp only [Trap.step] at moved
      split at moved <;> cases moved
      · exact .inl rfl
      · exact .inr rfl
    rcases through with rfl | rfl <;> cases stepped <;> exact .arm source moved
  | signal =>
    cases moved
    cases stepped
    rcases event with rfl | ⟨_, -, same⟩
    · exact .signal
    · cases same
  | call =>
    rcases event with rfl | ⟨_, -, same⟩
    · simp only [Trap.step] at moved
      split at moved
      · rename_i c armed
        split at moved
        · rename_i due
          simp only [Bool.and_eq_true, Bool.not_eq_true'] at due
          cases moved
          obtain ⟨s, found, stepped⟩ := Option.bind_eq_some_iff.mp stepped
          obtain ⟨⟨s', more⟩, asked, stepped⟩ := Option.bind_eq_some_iff.mp stepped
          cases stepped
          exact .called armed found asked due.1 due.2
        · cases moved
      · cases moved
    · cases same

theorem Parts.of_stepParts (stepped : h.stepParts e = some (h', happenings)) :
    Parts h e h' happenings := by
  cases e with
  | registration e =>
    obtain ⟨⟨registrar, happenings⟩, moved, stepped⟩ := Option.bind_eq_some_iff.mp stepped
    cases stepped
    exact .registration moved
  | flag frame running =>
    cases stepped
    exact .flag
  | startup e =>
    obtain ⟨⟨starts, happenings⟩, moved, stepped⟩ := Option.bind_eq_some_iff.mp stepped
    cases stepped
    exact .startup moved
  | armAfter p =>
    obtain ⟨pass, found, stepped⟩ := Option.bind_eq_some_iff.mp stepped
    split at stepped
    · exact .of_stepTrap (.inr ⟨p, rfl, rfl⟩) stepped
    · cases stepped
  | trap t => exact .of_stepTrap (.inl rfl) stepped
  | addController defaultTimeout =>
    cases stepped
    exact .addController
  | shutdown c e =>
    obtain ⟨s, found, stepped⟩ := Option.bind_eq_some_iff.mp stepped
    obtain ⟨⟨s', happenings⟩, moved, stepped⟩ := Option.bind_eq_some_iff.mp stepped
    cases stepped
    exact .shutdown found moved
  | wait =>
    cases stepped
    exact .wait
  | look w =>
    obtain ⟨s, own, stepped⟩ := Option.bind_eq_some_iff.mp stepped
    obtain ⟨report, published, stepped⟩ := Option.bind_eq_some_iff.mp stepped
    split at stepped
    · rename_i waits
      cases stepped
      exact .look own published waits
    · cases stepped
  | advance now =>
    simp only [stepParts] at stepped
    split at stepped
    · rename_i later
      cases stepped
      exact .advance later
    · cases stepped

theorem Parts.of_step (stepped : h.step e = some (h', happenings)) :
    ∃ parts metrics, Parts h e parts happenings ∧ h' = { parts with metrics } := by
  obtain ⟨⟨parts, happenings⟩, moved, stepped⟩ := Option.bind_eq_some_iff.mp stepped
  cases stepped
  exact ⟨parts, _, .of_stepParts moved, rfl⟩

end

/-- An event of a run with what it met and what came of it. -/
structure Moment where
  before : Host
  event : Event
  happenings : List Happening

inductive Run (start : Host) : List Moment → Host → Prop where
  | start : Run start [] start
  | step {past : List Moment} {h h' : Host} {e : Event} {happenings : List Happening}
      (run : Run start past h) (stepped : h.step e = some (h', happenings)) :
      Run start (past ++ [⟨h, e, happenings⟩]) h'

/-- A new host whose clock shows any time. -/
def newAt (clock : Clock) (startInterval shutdownTimeout : Duration) : Host :=
  { new startInterval shutdownTimeout with clock }

/-- What an event asks of a controller, directly or through the trap. -/
def Event.asks? (trap : Trap) (c : Nat) : Event → Option Shutdown.Event
  | .shutdown d e => if d = c then some e else none
  | .trap .call => if trap.controller = some c then some (.request none) else none
  | _ => none

theorem Event.of_asks? {e : Event} {trap : Trap} {c : Nat} {asked : Shutdown.Event}
    (asks : e.asks? trap c = some asked) :
    e = .shutdown c asked ∨ e = .trap .call ∧ asked = .request none := by
  cases e with
  | shutdown d e =>
    simp only [Event.asks?] at asks
    split at asks
    · rename_i same
      rw [same, Option.some.inj asks]
      exact .inl rfl
    · cases asks
  | trap t =>
    cases t with
    | call =>
      simp only [Event.asks?] at asks
      split at asks <;> cases asks
      exact .inr ⟨rfl, rfl⟩
    | _ => cases asks
  | _ => cases asks

def Happening.of? (c : Nat) : Happening → Option Shutdown.Happening
  | .shutdown d h => if d = c then some h else none
  | _ => none

def Moment.of? (c : Nat) (m : Moment) : Option Shutdown.Moment := do
  let before ← m.before.controllers[c]?
  let event ← m.event.asks? m.before.trap c
  some ⟨m.before.registry, m.before.clock, before, event, m.happenings.filterMap (·.of? c)⟩

/-- What a run of a host means for one of its controllers. -/
def moments (c : Nat) (past : List Moment) : List Shutdown.Moment := past.filterMap (·.of? c)

@[simp] theorem moments_concat (c : Nat) (past : List Moment) (m : Moment) :
    moments c (past ++ [m]) = moments c past ++ (m.of? c).toList := by
  cases now : m.of? c <;> simp [moments, now]

theorem filterMap_foreign {α β : Type} {f : α → Happening} {g : Happening → Option β}
    (foreign : ∀ x, g (f x) = none) (happenings : List α) : (happenings.map f).filterMap g = [] := by
  rw [List.filterMap_map]
  exact List.filterMap_eq_nil_iff.mpr fun x _ => foreign x

theorem mem_of?_iff {c : Nat} {happening : Shutdown.Happening} {happenings : List Happening} :
    happening ∈ happenings.filterMap (·.of? c) ↔ .shutdown c happening ∈ happenings := by
  rw [List.mem_filterMap]
  constructor
  · rintro ⟨h, member, same⟩
    cases h with
    | shutdown d x =>
      simp only [Happening.of?] at same
      split at same
      · rename_i own
        cases same
        exact own ▸ member
      · cases same
    | _ => cases same
  · exact fun member => ⟨_, member, if_pos rfl⟩

theorem filterMap_of? (c d : Nat) (happenings : List Shutdown.Happening) :
    (happenings.map (Happening.shutdown d)).filterMap (·.of? c) =
      if d = c then happenings else [] := by
  by_cases same : d = c
  · rw [if_pos same]
    induction happenings with
    | nil => rfl
    | cons h rest ih =>
      have kept : (Happening.shutdown d h).of? c = some h := if_pos same
      rw [List.map_cons, List.filterMap_cons_some kept, ih]
  · rw [if_neg same]
    have foreign (h : Shutdown.Happening) : (Happening.shutdown d h).of? c = none := if_neg same
    exact filterMap_foreign foreign happenings

section
variable {h h' : Host} {e : Event} {happenings : List Happening} {c : Nat}

theorem controllers_set {d : Nat} {s s' now : Shutdown.Controller} (found : h.controllers[d]? = some s)
    (result : (h.controllers.set d s')[c]? = some now) :
    d = c ∧ now = s' ∨ d ≠ c ∧ h.controllers[c]? = some now := by
  by_cases same : d = c
  · subst same
    rw [List.getElem?_set_self (List.getElem?_eq_some_iff.mp found).1] at result
    exact .inl ⟨rfl, (Option.some.inj result).symm⟩
  · rw [List.getElem?_set_ne same] at result
    exact .inr ⟨same, result⟩

theorem controllers_set_self {s : Shutdown.Controller} (found : h.controllers[c]? = some s) :
    h.controllers.set c s = h.controllers := by
  obtain ⟨bound, same⟩ := List.getElem?_eq_some_iff.mp found
  rw [← same, List.set_getElem_self]

/-- How an event bears on a controller: not at all, by adding it, or by working on it. -/
theorem Parts.controller_cases (parts : Parts h e h' happenings) {s' : Shutdown.Controller}
    (now : h'.controllers[c]? = some s') :
    (h.controllers[c]? = some s' ∧ e.asks? h.trap c = none) ∨
    (c = h.controllers.length ∧ e.asks? h.trap c = none ∧ ∃ defaultTimeout, s' = { defaultTimeout }) ∨
    ∃ s asked, h.controllers[c]? = some s ∧ e.asks? h.trap c = some asked ∧
      s.step h.registry h.clock asked = some (s', happenings.filterMap (·.of? c)) := by
  cases parts with
  | @called d s next more armed found asked =>
    rcases controllers_set found now with ⟨rfl, rfl⟩ | ⟨apart, same⟩
    · refine .inr (.inr ⟨s, .request none, found, by simp [Event.asks?, armed], ?_⟩)
      rw [List.filterMap_cons_none rfl, filterMap_of?, if_pos rfl]
      exact asked
    · exact .inl ⟨same, by simp [Event.asks?, armed, apart]⟩
  | @shutdown d e s next more found moved =>
    rcases controllers_set found now with ⟨rfl, rfl⟩ | ⟨apart, same⟩
    · refine .inr (.inr ⟨s, e, found, by simp [Event.asks?], ?_⟩)
      rw [filterMap_of?, if_pos rfl]
      exact moved
    · exact .inl ⟨same, by simp [Event.asks?, apart]⟩
  | @addController defaultTimeout =>
    rcases Nat.lt_or_ge c h.controllers.length with before | after
    · exact .inl ⟨by rwa [List.getElem?_append_left before] at now, rfl⟩
    · rw [List.getElem?_append_right after] at now
      obtain ⟨last, same⟩ := List.getElem?_eq_some_iff.mp now
      simp only [List.length_singleton] at last
      exact .inr (.inl ⟨by omega, rfl, defaultTimeout, by simpa using same.symm⟩)
  | arm event =>
    refine .inl ⟨now, ?_⟩
    rcases event with rfl | ⟨p, rfl, -⟩ <;> rfl
  | _ => exact .inl ⟨now, rfl⟩

theorem Parts.silent (parts : Parts h e h' happenings)
    (apart : h.controllers[c]? = none ∨ e.asks? h.trap c = none) :
    happenings.filterMap (·.of? c) = [] := by
  cases parts with
  | @called d s next more armed found =>
    have other : d ≠ c := by
      rintro rfl
      simp [found, Event.asks?, armed] at apart
    rw [List.filterMap_cons_none rfl, filterMap_of?, if_neg other]
  | @shutdown d e s next more found =>
    have other : d ≠ c := by
      rintro rfl
      simp [found, Event.asks?] at apart
    rw [filterMap_of?, if_neg other]
  | registration => exact filterMap_foreign (fun _ => rfl) _
  | startup => exact filterMap_foreign (fun _ => rfl) _
  | arm => exact filterMap_foreign (fun _ => rfl) _
  | _ => rfl

/-- What only grows. -/
structure Grown (h h' : Host) : Prop where
  frames : h.registry.frames <+: h'.registry.frames
  clock : h.clock.now ≤ h'.clock.now
  controllers : h.controllers.length ≤ h'.controllers.length

theorem Grown.trans {h'' : Host} (first : Grown h h') (second : Grown h' h'') : Grown h h'' :=
  ⟨first.frames.trans second.frames, Nat.le_trans first.clock second.clock,
    Nat.le_trans first.controllers second.controllers⟩

theorem Grown.registered (grown : Grown h h') {i : Nat} {id : FrameId}
    (here : h.registry.frames[i]? = some id) : h'.registry.frames[i]? = some id := by
  obtain ⟨bound, same⟩ := List.getElem?_eq_some_iff.mp here
  exact (List.prefix_iff_getElem?.mp grown.frames i bound).trans (congrArg some same)

theorem Grown.of_same (frames : h'.registry = h.registry) (clock : h'.clock = h.clock)
    (controllers : h.controllers.length ≤ h'.controllers.length) : Grown h h' :=
  ⟨frames ▸ List.prefix_rfl, Nat.le_of_eq (congrArg Clock.now clock).symm, controllers⟩

theorem registrar_cases {r r' : Registrar} {e : Registrar.Event}
    {happenings : List Registrar.Happening} (moved : r.step e = some (r', happenings)) :
    r'.registry = r.registry ∨ ∃ id, r.registry.tryRegister id = .ok r'.registry := by
  cases e with
  | attempt id =>
    cases tried : r.registry.tryRegister id with
    | error error =>
      simp only [Registrar.step, tried] at moved
      cases moved
      exact .inl rfl
    | ok registry =>
      simp only [Registrar.step, tried] at moved
      cases moved
      exact .inr ⟨id, tried⟩
  | publish place =>
    obtain ⟨count, -, moved⟩ := Option.bind_eq_some_iff.mp moved
    cases moved
    exact .inl rfl

theorem registrar_grows {r r' : Registrar} {e : Registrar.Event}
    {happenings : List Registrar.Happening} (moved : r.step e = some (r', happenings)) :
    r.registry.frames <+: r'.registry.frames := by
  rcases registrar_cases moved with same | ⟨id, tried⟩
  · exact same ▸ List.prefix_rfl
  · obtain ⟨-, -, grown⟩ := (Registry.tryRegister_eq_ok_iff _ _ _).mp tried
    exact grown ▸ List.prefix_append _ _

theorem Parts.grown (parts : Parts h e h' happenings) : Grown h h' := by
  cases parts with
  | registration moved => exact ⟨registrar_grows moved, Nat.le_refl _, Nat.le_refl _⟩
  | advance later => exact ⟨List.prefix_rfl, later, Nat.le_refl _⟩
  | _ => exact .of_same rfl rfl (by simp)

end

section
variable {start h : Host} {past : List Moment} {c : Nat}

theorem Run.grown (run : Run start past h) : ∀ m ∈ past, Grown m.before h := by
  induction run with
  | start => exact fun m member => (List.not_mem_nil member).elim
  | @step past h h' e happenings run stepped ih =>
    obtain ⟨parts, metrics, moved, rfl⟩ := Parts.of_step stepped
    have last : Grown h { parts with metrics } :=
      ⟨moved.grown.frames, moved.grown.clock, moved.grown.controllers⟩
    intro m member
    rcases List.mem_append.mp member with before | now
    · exact (ih m before).trans last
    · cases List.mem_singleton.mp now
      exact last

theorem mem_moments {m : Shutdown.Moment} (member : m ∈ moments c past) :
    ∃ m' ∈ past, m'.event.asks? m'.before.trap c = some m.event ∧ m'.before.registry = m.registry ∧
      m'.before.clock = m.clock ∧ c < m'.before.controllers.length := by
  obtain ⟨m', inPast, projected⟩ := List.mem_filterMap.mp member
  obtain ⟨before, found, rest⟩ := Option.bind_eq_some_iff.mp projected
  obtain ⟨event, asks, rest⟩ := Option.bind_eq_some_iff.mp rest
  cases rest
  exact ⟨m', inPast, asks, rfl, rfl, (List.getElem?_eq_some_iff.mp found).1⟩

theorem Run.moments_grown (run : Run start past h) {m : Shutdown.Moment} (member : m ∈ moments c past) :
    m.registry.frames <+: h.registry.frames ∧ m.clock.now ≤ h.clock.now := by
  obtain ⟨m', inPast, -, registry, clock, -⟩ := mem_moments member
  have grown := run.grown m' inPast
  rw [← registry, ← clock]
  exact ⟨grown.frames, grown.clock⟩

theorem Run.moments_eq_nil (run : Run start past h) (absent : h.controllers.length ≤ c) :
    moments c past = [] := by
  refine List.eq_nil_iff_forall_not_mem.mpr fun m member => ?_
  obtain ⟨m', inPast, -, -, -, bound⟩ := mem_moments member
  have grown := (run.grown m' inPast).controllers
  omega

theorem Run.happened (run : Run start past h) {m : Moment} (member : m ∈ past) :
    ∃ next, m.before.step m.event = some (next, m.happenings) := by
  induction run with
  | start => cases member
  | step run stepped ih =>
    rcases List.mem_append.mp member with earlier | now
    · exact ih earlier
    · cases List.mem_singleton.mp now
      exact ⟨_, stepped⟩

/-- What a run of a host does to a controller is a run of that controller. -/
theorem Run.controller {clock : Clock} {startInterval shutdownTimeout : Duration}
    (run : Run (newAt clock startInterval shutdownTimeout) past h) {s : Shutdown.Controller}
    (found : h.controllers[c]? = some s) :
    ∃ defaultTimeout, Shutdown.Controller.Run { defaultTimeout } (moments c past) s := by
  induction run generalizing s with
  | start =>
    have same : s = { defaultTimeout := shutdownTimeout } := by
      obtain ⟨bound, same⟩ := List.getElem?_eq_some_iff.mp found
      have first : c = 0 := by simpa [newAt, new] using bound
      subst first
      exact same.symm
    exact ⟨shutdownTimeout, same ▸ .start⟩
  | @step past h h' e happenings run stepped ih =>
    obtain ⟨parts, metrics, moved, rfl⟩ := Parts.of_step stepped
    rw [moments_concat]
    rcases moved.controller_cases found with ⟨before, silent⟩ | ⟨last, silent, defaultTimeout, rfl⟩ |
        ⟨s₀, asked, before, asks, worked⟩
    · obtain ⟨defaultTimeout, run⟩ := ih before
      have none : Moment.of? c ⟨h, e, happenings⟩ = none := by simp [Moment.of?, silent]
      exact ⟨defaultTimeout, by simpa [none] using run⟩
    · have none : Moment.of? c ⟨h, e, happenings⟩ = none := by simp [Moment.of?, silent]
      -- A controller that is added now has no past, for its place was empty until now.
      refine ⟨defaultTimeout, ?_⟩
      rw [none, run.moments_eq_nil (Nat.le_of_eq last.symm)]
      exact .start
    · obtain ⟨defaultTimeout, run'⟩ := ih before
      have now : Moment.of? c ⟨h, e, happenings⟩ =
          some ⟨h.registry, h.clock, s₀, asked, happenings.filterMap (·.of? c)⟩ := by
        simp [Moment.of?, before, asks]
      refine ⟨defaultTimeout, ?_⟩
      rw [now]
      exact run'.step (fun m member => run.moments_grown member) worked

theorem Run.trace_moments (run : Run start past h) (c : Nat) :
    Shutdown.trace (moments c past) = (past.flatMap Moment.happenings).filterMap (·.of? c) := by
  induction run with
  | start => rfl
  | @step past h h' e happenings run stepped ih =>
    obtain ⟨parts, metrics, moved, rfl⟩ := Parts.of_step stepped
    have last : Shutdown.trace (Moment.of? c ⟨h, e, happenings⟩).toList =
        happenings.filterMap (·.of? c) := by
      cases found : h.controllers[c]? with
      | none => simp [Moment.of?, found, moved.silent (.inl found), Shutdown.trace]
      | some s =>
        cases asks : e.asks? h.trap c with
        | none => simp [Moment.of?, asks, moved.silent (.inr asks), Shutdown.trace]
        | some asked => simp [Moment.of?, found, asks, Shutdown.trace]
    simp [Shutdown.trace_append, ih, last]

end

/-- The moments and the end of the run of a list of events, if all of them can happen. -/
def run? (h : Host) : List Event → Option (List Moment × Host)
  | [] => some ([], h)
  | e :: rest => do
    let (h', happenings) ← h.step e
    let (past, last) ← run? h' rest
    some (⟨h, e, happenings⟩ :: past, last)

theorem Run.of_run? {start h last : Host} {past more : List Moment} {events : List Event}
    (run : Run start past h) (ran : h.run? events = some (more, last)) :
    Run start (past ++ more) last := by
  induction events generalizing h past more with
  | nil =>
    cases ran
    simpa using run
  | cons e rest ih =>
    obtain ⟨⟨h', happenings⟩, stepped, ran⟩ := Option.bind_eq_some_iff.mp ran
    obtain ⟨⟨tail, last⟩, ran, same⟩ := Option.bind_eq_some_iff.mp ran
    cases same
    simpa using ih (run.step stepped) ran

theorem Run.of_start {start last : Host} {past : List Moment} {events : List Event}
    (ran : start.run? events = some (past, last)) : Run start past last := by
  simpa using Run.start.of_run? ran

theorem events_of_run? {h last : Host} {past : List Moment} {events : List Event}
    (ran : h.run? events = some (past, last)) : past.map Moment.event = events := by
  induction events generalizing h past with
  | nil =>
    cases ran
    rfl
  | cons e rest ih =>
    obtain ⟨⟨h', happenings⟩, stepped, ran⟩ := Option.bind_eq_some_iff.mp ran
    obtain ⟨⟨tail, last⟩, ran, same⟩ := Option.bind_eq_some_iff.mp ran
    cases same
    rw [List.map_cons, ih ran]

theorem event_mem_of_run? {h last : Host} {past : List Moment} {events : List Event}
    (ran : h.run? events = some (past, last)) {m : Moment} (member : m ∈ past) : m.event ∈ events :=
  events_of_run? ran ▸ List.mem_map_of_mem member

end FrameHost.Host
