import FrameHost.Http.Frame

/-! What an event does to an HTTP frame, case by case.

`Run.Work` is what the owner of a frame does between its claim and its release, `Stop.Move` how a
shutdown goes on without its lock. `Frame.Step` adds the claims, the release and what shutdowns do
under the lock. Later proofs split on these cases and leave the executable step closed. -/

set_option autoImplicit false

namespace FrameHost.Http

/-- Between its claim and its release a run owns the frame. -/
def RunStage.owns : RunStage → Bool
  | .claimed | .serving | .left | .cleared => true
  | .spawned | .returned => false

/-- The owner of a frame goes on, to a next stage and with a next address of the frame. -/
inductive Run.Work (r : Nat) (run : Run) (address : Option String) :
    Event → RunStage → Option String → List Happening → Prop where
  | bind {bound : String} (claimed : run.stage = .claimed) :
      Run.Work r run address (.bind r bound) .serving (some bound) [.serving r bound]
  | fail {failure : Failure} (inside : run.stage = .claimed ∨ run.stage = .serving) :
      Run.Work r run address (.fail r failure) .left address [.failed r failure]
  | drain (serving : run.stage = .serving) (told : run.told = true) :
      Run.Work r run address (.drain r) .left address [.stopped r]
  | clear (left : run.stage = .left) : Run.Work r run address (.clear r) .cleared none []

inductive Stop.Move (now : Nat) (running : Bool) (s : Nat) (stop : Stop) :
    Event → Stop → List Happening → Prop where
  | cancel : Stop.Move now running s stop (.cancelToken s) { stop with token := stop.token.cancel } []
  | observe {r : Nat} (draining : stop.stage = .draining r) (idle : running = false) :
      Stop.Move now running s stop (.observe s) { stop with stage := .returned true } [.drained s]
  | expire {r : Nat} (draining : stop.stage = .draining r) (fired : stop.token.fired now = true) :
      Stop.Move now running s stop (.expire s) { stop with stage := .returned false }
        [.stillDraining s]

namespace Frame

inductive Step (now : Nat) (f : Frame) : Event → Frame → List Happening → Prop where
  | spawn : Step now f .spawn { f with runs := f.runs ++ [{}] } []
  | refuse {r : Nat} {run : Run} (found : f.runs[r]? = some run) (spawned : run.stage = .spawned)
      (busy : f.running = true) :
      Step now f (.claim r) (f.setRun r { run with stage := .returned }) [.alreadyRunning r]
  | suppress {r deadline : Nat} {run : Run} (found : f.runs[r]? = some run)
      (spawned : run.stage = .spawned) (idle : f.running = false) (pending : f.pending = some deadline)
      (early : now < deadline) :
      Step now f (.claim r) { f.setRun r { run with stage := .returned } with pending := none }
        [.suppressed r]
  | claim {r : Nat} {run : Run} (found : f.runs[r]? = some run) (spawned : run.stage = .spawned)
      (idle : f.running = false) (lapsed : ∀ deadline, f.pending = some deadline → deadline ≤ now) :
      Step now f (.claim r)
        { f.setRun r { run with stage := .claimed } with
          pending := none, current := some r, running := true } [.claimed r]
  | work {r : Nat} {run : Run} {e : Event} {stage : RunStage} {address : Option String}
      {happenings : List Happening} (found : f.runs[r]? = some run)
      (work : run.Work r f.localAddress e stage address happenings) :
      Step now f e { f.setRun r { run with stage } with localAddress := address } happenings
  | release {r : Nat} {run : Run} (found : f.runs[r]? = some run) (cleared : run.stage = .cleared) :
      Step now f (.release r) { f.setRun r { run with stage := .returned } with running := false }
        [.released r]
  | callShutdown {token : Token} :
      Step now f (.callShutdown token) { f with stops := f.stops ++ [{ token }] } []
  | tell {s r : Nat} {stop : Stop} (found : f.stops[s]? = some stop) (called : stop.stage = .called)
      (busy : f.running = true) (current : f.current = some r) :
      Step now f (.take s)
        { f.setStop s { stop with stage := .draining r } with
          runs := f.runs.modify r fun run => { run with told := true }, pending := none } [.told s r]
  | request {s : Nat} {stop : Stop} (found : f.stops[s]? = some stop) (called : stop.stage = .called)
      (idle : f.running = false ∨ f.current = none) :
      Step now f (.take s)
        { f.setStop s { stop with stage := .returned true } with
          pending := some stop.token.deadline } [.foundStopped s]
  | stop {s : Nat} {stop next : Stop} {e : Event} {happenings : List Happening}
      (found : f.stops[s]? = some stop) (move : stop.Move now f.running s e next happenings) :
      Step now f e (f.setStop s next) happenings

variable {now : Nat} {f f' : Frame} {e : Event} {happenings : List Happening}

theorem Step.of_claim {r : Nat} {run : Run} (found : f.runs[r]? = some run)
    (spawned : run.stage = .spawned) :
    Step now f (.claim r) (f.claim now r run).1 (f.claim now r run).2 := by
  unfold Frame.claim
  by_cases busy : f.running = true
  · rw [if_pos busy]
    exact .refuse found spawned busy
  · have idle : f.running = false := Bool.eq_false_iff.mpr busy
    rw [if_neg busy]
    cases pending : f.pending with
    | none =>
      have free : ∀ deadline, f.pending = some deadline → deadline ≤ now := by simp [pending]
      simpa using Step.claim found spawned idle free
    | some deadline =>
      by_cases early : now < deadline
      · simpa [early] using Step.suppress found spawned idle pending early
      · have lapsed : ∀ d, f.pending = some d → d ≤ now := by
          intro d same
          cases pending.symm.trans same
          omega
        simpa [early] using Step.claim found spawned idle lapsed

theorem Step.of_take {s : Nat} {stop : Stop} (found : f.stops[s]? = some stop)
    (called : stop.stage = .called) :
    Step now f (.take s) (f.take s stop).1 (f.take s stop).2 := by
  unfold Frame.take
  cases busy : f.running with
  | false => exact .request found called (.inl busy)
  | true =>
    cases current : f.current with
    | none => exact .request found called (.inr current)
    | some r =>
      simpa [Frame.tell, setStop, current] using Step.tell found called busy current

theorem Step.of_step (stepped : f.step now e = some (f', happenings)) :
    Step now f e f' happenings := by
  cases e with
  | spawn =>
    cases stepped
    exact .spawn
  | claim r =>
    obtain ⟨run, found, stepped⟩ := Option.bind_eq_some_iff.mp stepped
    split at stepped
    · rename_i spawned
      have claimed := Option.some.inj stepped
      have step : Step now f _ _ _ := Step.of_claim found spawned
      simpa [claimed] using step
    · cases stepped
  | bind r address =>
    obtain ⟨run, found, stepped⟩ := Option.bind_eq_some_iff.mp stepped
    split at stepped
    · rename_i claimed
      cases stepped
      exact .work found (.bind claimed)
    · cases stepped
  | fail r failure =>
    obtain ⟨run, found, stepped⟩ := Option.bind_eq_some_iff.mp stepped
    split at stepped
    · rename_i inside
      cases stepped
      exact .work found (.fail inside)
    · cases stepped
  | drain r =>
    obtain ⟨run, found, stepped⟩ := Option.bind_eq_some_iff.mp stepped
    split at stepped
    · rename_i told
      cases stepped
      exact .work found (.drain told.1 told.2)
    · cases stepped
  | clear r =>
    obtain ⟨run, found, stepped⟩ := Option.bind_eq_some_iff.mp stepped
    split at stepped
    · rename_i left
      cases stepped
      exact .work found (.clear left)
    · cases stepped
  | release r =>
    obtain ⟨run, found, stepped⟩ := Option.bind_eq_some_iff.mp stepped
    split at stepped
    · rename_i cleared
      cases stepped
      exact .release found cleared
    · cases stepped
  | callShutdown token =>
    cases stepped
    exact .callShutdown
  | take s =>
    obtain ⟨stop, found, stepped⟩ := Option.bind_eq_some_iff.mp stepped
    split at stepped
    · rename_i called
      have taken := Option.some.inj stepped
      have step : Step now f _ _ _ := Step.of_take found called
      simpa [taken] using step
    · cases stepped
  | cancelToken s =>
    obtain ⟨stop, found, stepped⟩ := Option.bind_eq_some_iff.mp stepped
    cases stepped
    exact .stop found .cancel
  | observe s =>
    obtain ⟨stop, found, stepped⟩ := Option.bind_eq_some_iff.mp stepped
    split at stepped
    · rename_i r draining
      split at stepped
      · cases stepped
      · rename_i idle
        cases stepped
        exact .stop found (.observe draining (Bool.eq_false_iff.mpr idle))
    · cases stepped
  | expire s =>
    obtain ⟨stop, found, stepped⟩ := Option.bind_eq_some_iff.mp stepped
    split at stepped
    · rename_i r draining
      split at stepped
      · rename_i fired
        cases stepped
        exact .stop found (.expire draining fired)
      · cases stepped
    · cases stepped

end Frame

end FrameHost.Http
