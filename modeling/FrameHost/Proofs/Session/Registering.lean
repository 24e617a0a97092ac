import FrameHost.Session.Registering
import FrameHost.Proofs.Registry

/-! A session with a registry is a row of calls to it.

Every step makes calls, of which its caller is told the answers, and leaves the registry as these calls
leave it. -/

set_option autoImplicit false

namespace FrameHost.Session.Registering

/-- The calls that a step makes to a registry with some frames. -/
def Step.calls (frames : List FrameId) : Step → List Registry.Call
  | .register frame => [.register frame.id]
  | .tryRegister frame => [.tryRegister frame.id]
  | .again place => (frames[place]?.map .tryRegister).toList
  | .fill name count => (List.range count).map fun i => .tryRegister (.ofName (name ++ toString i))
  | .lookup name version => [.lookup name version]
  | .list | .show | .snapshot => [.list]
  | .size => [.size]
  | .snapshots | .unknown _ => []

/-- What the caller of a step is told of the answers to its calls, and which lists it keeps then. A frame is
told as its caller described it. -/
inductive Tells (kept : List (List String)) :
    Step → List Registry.Answer → Answer → List (List String) → Prop where
  | registered {frame : Subject} : Tells kept (.register frame) [.accepted] .ok kept
  | fatal {frame : Subject} {error : RegistrationError} :
      Tells kept (.register frame) [.panicked error.message] (.fatal error) kept
  | accepted {frame : Subject} : Tells kept (.tryRegister frame) [.accepted] .ok kept
  | refused {frame : Subject} {error : RegistrationError} :
      Tells kept (.tryRegister frame) [.refused error] (.refused error) kept
  | again {place : Nat} {error : RegistrationError} :
      Tells kept (.again place) [.refused error] (.refused error) kept
  | noFrame {place : Nat} : Tells kept (.again place) [] .noFrame kept
  | filled {name : String} {count : Nat} {answers : List Registry.Answer} :
      Tells kept (.fill name count) answers (.number (answers.count .accepted)) kept
  | found {name : String} {version : Option String} {frame : Option Subject} :
      Tells kept (.lookup name version) [.found (frame.map Subject.id)] (.found frame) kept
  | listed {frames : List FrameId} : Tells kept .list [.listed frames] (.keys (frames.map FrameId.key)) kept
  | shown {r : Registry} : Tells kept .show [.listed r.frames] (.shown r.shown r.shownTall) kept
  | size {n : Nat} : Tells kept .size [.size n] (.size n) kept
  | snapshot {frames : List FrameId} :
      Tells kept .snapshot [.listed frames] (.number kept.length) (kept ++ [frames.map FrameId.key])
  | snapshots : Tells kept .snapshots [] (.snapshots kept) kept
  | unknown {name : String} : Tells kept (.unknown name) [] (.unknown name) kept

/-- The results of steps that begin with a registry, of which some lists are kept. -/
inductive Follows : Registry → List (List String) → List Step → List Result → Prop where
  | done {r : Registry} {kept : List (List String)} : Follows r kept [] []
  | step {r r' : Registry} {kept kept' : List (List String)} {step : Step} {steps : List Step}
      {result : Result} {results : List Result} (after : r' = r.performAll (step.calls r.frames))
      (told : Tells kept step (r.answersTo (step.calls r.frames)) result.answer kept')
      (size : result.size = r'.size) (rest : Follows r' kept' steps results) :
      Follows r kept (step :: steps) (result :: results)

/-- The frames are described as they are registered, and no count is left to be published. -/
structure State.Described (s : State) : Prop where
  valid : s.registry.Valid
  frames : s.frames.map Subject.id = s.registry.frames
  published : s.registrar.unpublished = []

variable {s : State}

theorem State.Described.attempt_cases (described : s.Described) (frame : Subject) :
    (∃ s', s.attempt frame = (s', none) ∧ s'.Described ∧ s'.snapshots = s.snapshots ∧
      s.registry.tryRegister frame.id = .ok s'.registry) ∨
    ∃ error, s.attempt frame = (s, some error) ∧ s.registry.tryRegister frame.id = .error error := by
  cases tried : s.registry.tryRegister frame.id with
  | ok registry =>
    have valid := described.valid.tryRegister tried
    obtain ⟨-, -, grown⟩ := (Registry.tryRegister_eq_ok_iff _ _ _).mp tried
    unfold State.registry at tried
    simp only [State.attempt, Registrar.step, tried, described.published, List.nil_append,
      List.getElem?_cons_zero]
    refine .inl ⟨_, rfl, ⟨valid, ?_, rfl⟩, rfl, rfl⟩
    simp only [List.map_append, List.map_cons, List.map_nil, described.frames]
    exact (congrArg Registry.frames grown).symm
  | error error =>
    unfold State.registry at tried
    exact .inr ⟨error, by simp [State.attempt, Registrar.step, tried], rfl⟩

theorem State.Described.attemptMore (described : s.Described) (n : Nat) (frames : List Subject) :
    ∃ s', frames.foldl State.attemptMore (s, n) =
        (s', n + (s.registry.answersTo (frames.map fun frame => .tryRegister frame.id)).count .accepted) ∧
      s'.Described ∧ s'.snapshots = s.snapshots ∧
      s'.registry = s.registry.performAll (frames.map fun frame => .tryRegister frame.id) := by
  induction frames generalizing s n with
  | nil => exact ⟨s, rfl, described, rfl, rfl⟩
  | cons frame rest ih =>
    simp only [List.foldl_cons, List.map_cons, Registry.answersTo, Registry.performAll_cons]
    rcases described.attempt_cases frame with ⟨next, attempted, described', same, tried⟩ | ⟨error, attempted, tried⟩
    · obtain ⟨last, counted, final, kept, registry⟩ := ih described' (n + 1)
      have more : State.attemptMore (s, n) frame = (next, n + 1) := by simp only [State.attemptMore, attempted]
      rw [more, (Registry.perform_of_ok tried).2]
      refine ⟨last, counted.trans ?_, final, kept.trans same, registry⟩
      rw [List.count_cons_self, Nat.add_assoc, Nat.add_comm 1]
    · obtain ⟨last, counted, final, kept, registry⟩ := ih described n
      have more : State.attemptMore (s, n) frame = (s, n) := by simp only [State.attemptMore, attempted]
      rw [more, (Registry.perform_of_error tried).2]
      refine ⟨last, counted.trans ?_, final, kept, registry⟩
      simp

theorem State.Described.attempt_again (described : s.Described) {place : Nat} {frame : Subject}
    (there : s.frames[place]? = some frame) : ∃ error, s.attempt frame = (s, some error) ∧
      s.registry.tryRegister frame.id = .error error := by
  rcases described.attempt_cases frame with ⟨s', -, -, -, tried⟩ | refused
  · obtain ⟨-, fresh, -⟩ := (Registry.tryRegister_eq_ok_iff _ _ _).mp tried
    have member : frame.id ∈ s.registry.frames := by
      rw [← described.frames]
      exact List.mem_map_of_mem (List.mem_of_getElem? there)
    exact (fresh (List.mem_map_of_mem member)).elim
  · exact refused

/-- A step leaves the registry as its calls leave it, and its caller is told their answers. -/
theorem State.Described.take (described : s.Described) (step : Step) :
    (s.take step).1.Described ∧
      (s.take step).1.registry = s.registry.performAll (step.calls s.registry.frames) ∧
      Tells s.snapshots step (s.registry.answersTo (step.calls s.registry.frames)) (s.take step).2
        (s.take step).1.snapshots := by
  cases step with
  | register frame =>
    simp only [Step.calls, Registry.performAll_singleton, Registry.answersTo_singleton, State.take]
    rcases described.attempt_cases frame with ⟨s', attempted, described', same, tried⟩ | ⟨error, attempted, tried⟩
    · simp only [attempted, (Registry.perform_of_ok tried).1, same]
      exact ⟨described', trivial, .registered⟩
    · simp only [attempted, (Registry.perform_of_error tried).1]
      exact ⟨⟨described.valid, described.frames, described.published⟩, rfl, .fatal⟩
  | tryRegister frame =>
    simp only [Step.calls, Registry.performAll_singleton, Registry.answersTo_singleton, State.take]
    rcases described.attempt_cases frame with ⟨s', attempted, described', same, tried⟩ | ⟨error, attempted, tried⟩
    · simp only [attempted, (Registry.perform_of_ok tried).2, same]
      exact ⟨described', trivial, .accepted⟩
    · simp only [attempted, (Registry.perform_of_error tried).2]
      exact ⟨described, trivial, .refused⟩
  | again place =>
    -- The caller tells a place, the registry is called with the frame that was described there.
    have named : s.registry.frames[place]? = s.frames[place]?.map Subject.id := by
      rw [← described.frames, List.getElem?_map]
    simp only [Step.calls, named]
    cases there : s.frames[place]? with
    | none =>
      simp only [State.take, there]
      exact ⟨described, rfl, .noFrame⟩
    | some frame =>
      obtain ⟨error, attempted, tried⟩ := described.attempt_again there
      simp only [State.take, there, attempted, Option.map_some, Option.toList_some, Registry.performAll_singleton,
        Registry.answersTo_singleton, (Registry.perform_of_error tried).2]
      exact ⟨described, trivial, .again⟩
  | fill name count =>
    obtain ⟨s', attempted, described', same, registry⟩ := described.attemptMore 0
      ((List.range count).map fun i => { id := .ofName (name ++ toString i) })
    rw [List.map_map] at attempted registry
    rw [Nat.zero_add] at attempted
    simp only [State.take, State.attemptAll, attempted, same, Step.calls]
    exact ⟨⟨described'.valid, described'.frames, described'.published⟩, registry, .filled⟩
  | lookup name version =>
    refine ⟨described, rfl, ?_⟩
    -- The frame that is told is the description at the place where the registry finds the key.
    have told : s.registry.lookup name version =
        ((s.registry.place? name version).bind (s.frames[·]?)).map Subject.id := by
      rw [Registry.lookup, List.find?_eq_bind_findIdx?_getElem?, ← described.frames, Option.map_bind]
      simp only [List.getElem?_map, Registry.place?, ← described.frames]
      rfl
    simp only [State.take, Step.calls, Registry.answersTo, Registry.perform, told]
    exact .found
  | list => exact ⟨described, rfl, .listed⟩
  | size => exact ⟨described, rfl, .size⟩
  | «show» => exact ⟨described, rfl, .shown⟩
  | snapshot => exact ⟨⟨described.valid, described.frames, described.published⟩, rfl, .snapshot⟩
  | snapshots => exact ⟨described, rfl, .snapshots⟩
  | unknown name => exact ⟨described, rfl, .unknown⟩

/-- The results of more steps come after those that are there already. -/
theorem State.Described.follows (described : s.Described) (results : List Result) (steps : List Step) :
    ∃ more, (steps.foldl advance (s, results)).2 = results ++ more ∧
      Follows s.registry s.snapshots steps more := by
  induction steps generalizing s results with
  | nil => exact ⟨[], (List.append_nil _).symm, .done⟩
  | cons step rest ih =>
    have fresh : ({ s with log := [] } : State).Described :=
      ⟨described.valid, described.frames, described.published⟩
    obtain ⟨still, after, told⟩ := fresh.take step
    obtain ⟨more, same, follows⟩ := ih still (results ++ [_])
    exact ⟨_ :: more, same.trans (List.append_assoc ..), .step after told rfl follows⟩

theorem State.Described.initial : ({} : State).Described :=
  ⟨⟨fun _ member => (List.not_mem_nil member).elim, List.nodup_nil⟩, rfl, rfl⟩

/-- A session is a row of calls to a registry that is empty at first, and its caller is told the answers. -/
theorem run_follows (steps : List Step) : Follows {} [] steps (run steps).1 := by
  obtain ⟨results, same, follows⟩ := State.Described.initial.follows [] steps
  have ran : (run steps).1 = results := same
  rw [ran]
  exact follows

end FrameHost.Session.Registering
