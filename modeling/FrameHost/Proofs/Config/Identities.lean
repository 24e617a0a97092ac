import FrameHost.Config.Validation
import FrameHost.Log.Pattern
import FrameHost.Proofs.Service.Registering

/-! Validation and registration agree on the identities of frames.

Validation keeps the keys of all frames that it has looked at, registration those of the frames that
it has let in. Both hold the same keys after the same frames, so a frame has an error in its identity
exactly if its registration would be refused, and a configuration without errors can be hosted. -/

set_option autoImplicit false

namespace FrameHost

namespace Config

def ValidationError.ofIdentity : ValidationError → Bool
  | .emptyName _ | .duplicateFrame _ => true
  | _ => false

/-- A refusal to register the frame with an index, as an error of a configuration. -/
def ValidationError.ofRefusal (index : Nat) : RegistrationError → ValidationError
  | .emptyName => .emptyName index
  | .duplicate key => .duplicateFrame key

def refusals (index : Nat) : Registry.Answer → List ValidationError
  | .refused error => [.ofRefusal index error]
  | _ => []

/-- The errors of frames numbered from an index on, frame by frame. -/
def errorsByFrame (taken : Taken) (index : Nat) : List FrameEntry → List (List ValidationError)
  | [] => []
  | f :: rest =>
    (frameErrors taken index f).1 :: errorsByFrame (frameErrors taken index f).2 (index + 1) rest

/-- What a registry that is asked for one frame after another says against each of them. -/
def refusalsByFrame (r : Registry) (index : Nat) (frames : List FrameEntry) :
    List (List ValidationError) :=
  (r.answersTo (frames.map fun f => .tryRegister f.id)).mapIdx fun i answer =>
    refusals (index + i) answer

section
variable {taken : Taken} {r : Registry} {f : FrameEntry}

theorem framesErrors_eq_flatten (taken : Taken) (index : Nat) (frames : List FrameEntry) :
    framesErrors taken index frames = (errorsByFrame taken index frames).flatten := by
  induction frames generalizing taken index with
  | nil => rfl
  | cons f rest ih => simp only [framesErrors, errorsByFrame, List.flatten_cons, ih]

theorem refusalsByFrame_cons (r : Registry) (index : Nat) (f : FrameEntry) (rest : List FrameEntry) :
    refusalsByFrame r index (f :: rest) =
      refusals index (r.perform (.tryRegister f.id)).2 ::
        refusalsByFrame (r.perform (.tryRegister f.id)).1 (index + 1) rest := by
  simp only [refusalsByFrame, List.map_cons, Registry.answersTo, List.mapIdx_cons, Nat.add_zero,
    Nat.add_assoc, Nat.add_comm 1]

@[simp] theorem name_id (f : FrameEntry) : f.id.name = f.name := FrameId.name_ofParts _ _

theorem filter_addressErrors (addresses : List Net.SocketAddress) (key : String) (f : FrameEntry) :
    (addressErrors addresses key f).1.filter ValidationError.ofIdentity = [] := by
  unfold addressErrors
  split
  · split <;> rfl
  · rfl

theorem frameErrors_of_unnamed (taken : Taken) (index : Nat) (unnamed : f.name = "") :
    frameErrors taken index f = ([.emptyName index], taken) := if_pos unnamed

theorem frameErrors_of_named (taken : Taken) (index : Nat) (named : f.name ≠ "") :
    (frameErrors taken index f).1.filter ValidationError.ofIdentity =
        (if f.id.key ∈ taken.keys then [.duplicateFrame f.id.key] else []) ∧
      (frameErrors taken index f).2.keys = f.id.key :: taken.keys := by
  have duplicate : (if f.id.key ∈ taken.keys then [.duplicateFrame f.id.key] else []).filter
      ValidationError.ofIdentity = if f.id.key ∈ taken.keys then [.duplicateFrame f.id.key] else [] := by
    split <;> rfl
  have zero (field : String) : (if f.requestTimeoutSeconds = 0 then
      [ValidationError.zeroValue field] else []).filter ValidationError.ofIdentity = [] := by
    split <;> rfl
  simp only [frameErrors, named, if_false, List.filter_append, filter_addressErrors, duplicate, zero,
    List.append_nil, and_self]

/-- One frame: validation and registration say the same of its identity, and go on with the same keys. -/
theorem frameErrors_agree (same : ∀ key, key ∈ taken.keys ↔ key ∈ r.keys) (index : Nat)
    (f : FrameEntry) :
    (frameErrors taken index f).1.filter ValidationError.ofIdentity =
        refusals index (r.perform (.tryRegister f.id)).2 ∧
      ∀ key, key ∈ (frameErrors taken index f).2.keys ↔
        key ∈ (r.perform (.tryRegister f.id)).1.keys := by
  by_cases unnamed : f.name = ""
  · rw [frameErrors_of_unnamed taken index unnamed, Registry.perform_of_refused (.inl (by simpa using unnamed))]
    refine ⟨?_, same⟩
    simp [refusals, Registry.rejectionOf, unnamed, ValidationError.ofRefusal, ValidationError.ofIdentity]
  · obtain ⟨errors, keys⟩ := frameErrors_of_named taken index unnamed
    rw [errors, keys]
    by_cases known : f.id.key ∈ r.keys
    · rw [if_pos ((same _).mpr known), Registry.perform_of_refused (.inr known)]
      refine ⟨by simp [refusals, Registry.rejectionOf, unnamed, ValidationError.ofRefusal], fun key => ?_⟩
      -- The key of a frame that is refused is recorded once more, which changes nothing.
      rw [List.mem_cons, same]
      exact or_iff_right_of_imp fun again => again ▸ known
    · rw [if_neg (fun taken => known ((same _).mp taken)),
        (Registry.perform_of_fresh (by simpa using unnamed) known).2]
      refine ⟨rfl, fun key => ?_⟩
      rw [Registry.keys_concat, List.mem_cons, List.mem_append, List.mem_singleton, same]
      exact or_comm

/-- All frames: as long as both start with the same keys, they stay in step. -/
theorem errorsByFrame_agree (same : ∀ key, key ∈ taken.keys ↔ key ∈ r.keys) (index : Nat)
    (frames : List FrameEntry) :
    (errorsByFrame taken index frames).map (List.filter ValidationError.ofIdentity) =
      refusalsByFrame r index frames := by
  -- Each frame leaves both with the same keys again, so the rest starts in step.
  induction frames generalizing taken r index with
  | nil => rfl
  | cons f rest ih =>
    obtain ⟨now, after⟩ := frameErrors_agree same index f
    rw [refusalsByFrame_cons, errorsByFrame, List.map_cons, now, ih after]

end

def settingsErrors (c : Config) (level : List ValidationError) : List ValidationError :=
  lifecycleErrors c.lifecycle ++ level ++ metricsErrors c.observability

theorem filter_settingsErrors [Log.Patterns] {c : Config} {level : List ValidationError}
    (read : levelErrors? c.logging.level = some level) :
    (settingsErrors c level).filter ValidationError.ofIdentity = [] := by
  have lifecycle : (lifecycleErrors c.lifecycle).filter ValidationError.ofIdentity = [] := by
    unfold lifecycleErrors
    split <;> rfl
  have metrics : (metricsErrors c.observability).filter ValidationError.ofIdentity = [] := by
    unfold metricsErrors
    split <;> rfl
  have levels : level.filter ValidationError.ofIdentity = [] := by
    unfold levelErrors? at read
    split at read <;> cases read <;> rfl
  simp [settingsErrors, lifecycle, metrics, levels]

theorem levelErrors?_isSome [Log.Patterns] {level : String} (whole : Log.Filter.parse level ≠ .error .torn) :
    ∃ errors, levelErrors? level = some errors := by
  unfold levelErrors?
  split
  · exact ⟨_, rfl⟩
  · rename_i torn
    exact (whole torn).elim
  · exact ⟨_, rfl⟩

/-- How the errors of a configuration and the refusals of a registry that is asked for its frames
in their order correspond. -/
structure Agreement (c : Config) (errors : List ValidationError) : Prop where
  /-- The errors are those of the settings, of which none is about an identity, and then those of
  each frame in turn. -/
  byFrame : ∃ settings, errors = settings ++ (errorsByFrame {} 0 c.frames).flatten ∧
    settings.filter ValidationError.ofIdentity = []
  /-- Each frame has the errors in its identity that its refusal gives, and no others. -/
  atEach : (errorsByFrame {} 0 c.frames).map (List.filter ValidationError.ofIdentity) =
    refusalsByFrame {} 0 c.frames
  inOrder : errors.filter ValidationError.ofIdentity = (refusalsByFrame {} 0 c.frames).flatten
  /-- Without errors no registration of a frame to be hosted is fatal. -/
  accepted : errors = [] → ∀ answer ∈ ({} : Registry).answersTo (c.hosted.map fun f => .register f.id),
    answer = .accepted
  /-- Without errors the program registers the keys of the configuration in their order. -/
  keys : errors = [] → ∀ (journal : Log.Journal) (time : String),
    ((Service.ofConfig journal c.lifecycle).register time c.hosted).host.registry.keys =
      c.hosted.map fun f => f.id.key

theorem accepted_of_refusals {r : Registry} {index : Nat} {frames : List FrameEntry}
    (none : (refusalsByFrame r index frames).flatten = []) :
    ∀ answer ∈ r.answersTo (frames.map fun f => .tryRegister f.id), answer = .accepted := by
  induction frames generalizing r index with
  | nil => exact fun answer member => (List.not_mem_nil member).elim
  | cons f rest ih =>
    rw [refusalsByFrame_cons, List.flatten_cons, List.append_eq_nil_iff] at none
    intro answer member
    simp only [List.map_cons, Registry.answersTo, List.mem_cons] at member
    rcases member with rfl | member
    · have silent := none.1
      cases tried : r.tryRegister f.id with
      | ok r' => simp [Registry.perform, tried]
      | error error => simp [Registry.perform, tried, refusals] at silent
    · exact ih none.2 answer member

/-- The errors of a configuration whose log level is no torn text are about the identities that a
registry would refuse, and without errors all frames are hosted under the keys of the configuration. -/
theorem identities_agree [Log.Patterns] (c : Config) (whole : Log.Filter.parse c.logging.level ≠ .error .torn) :
    ∃ errors, c.errors? = some errors ∧ Agreement c errors := by
  obtain ⟨level, read⟩ := levelErrors?_isSome whole
  have agree : (errorsByFrame {} 0 c.frames).map (List.filter ValidationError.ofIdentity) =
      refusalsByFrame {} 0 c.frames := errorsByFrame_agree (fun key => Iff.rfl) 0 c.frames
  have split : c.errors? = some (settingsErrors c level ++ (errorsByFrame {} 0 c.frames).flatten) := by
    simp [errors?, read, settingsErrors, framesErrors_eq_flatten]
  have inOrder : (settingsErrors c level ++ (errorsByFrame {} 0 c.frames).flatten).filter
      ValidationError.ofIdentity = (refusalsByFrame {} 0 c.frames).flatten := by
    rw [List.filter_append, filter_settingsErrors read, List.nil_append, List.filter_flatten, agree]
  have hosted (sound : settingsErrors c level ++ (errorsByFrame {} 0 c.frames).flatten = []) :
      ∀ answer ∈ ({} : Registry).answersTo (c.hosted.map fun f => .tryRegister f.id),
        answer = .accepted := by
    unfold Config.hosted
    split
    · -- The frame that stands in for none is alone.
      decide
    · rw [sound] at inOrder
      exact accepted_of_refusals inOrder.symm
  -- What would be accepted by a caller that goes on is accepted by one that does not.
  have registered (sound : settingsErrors c level ++ (errorsByFrame {} 0 c.frames).flatten = []) :=
    Registry.register_of_accepted (r := {}) (c.hosted.map FrameEntry.id)
      (by simpa [Function.comp_def] using hosted sound)
  refine ⟨_, split, ⟨settingsErrors c level, rfl, filter_settingsErrors read⟩, agree, inOrder,
    fun sound => ?_, fun sound journal time => ?_⟩
  · simpa [Function.comp_def] using (registered sound).1
  · have frames := (registered sound).2
    rw [List.map_map] at frames
    rw [Service.registry_register]
    exact (congrArg (List.map FrameId.key) frames).trans (by simp)

/-- Frames of which some have no name, and some share a key that only one of them spells as a name. -/
def mixedFrames : Config :=
  { frames := [{ name := "", bindAddress := "127.0.0.1:1" }, { name := "api_v2", bindAddress := "nowhere" },
      { name := "api", version := some "v2", bindAddress := "127.0.0.1:2" },
      { name := "api", version := some "", bindAddress := "127.0.0.1:3" },
      { name := "", bindAddress := "" }, { name := "api", bindAddress := "127.0.0.1:3" }] }

def soundFrames : Config :=
  { frames := [{ name := "api", bindAddress := "127.0.0.1:1" },
      { name := "api", version := some "v2", bindAddress := "127.0.0.1:2" }] }

theorem identities_agree_mixedFrames :
    (Log.Filter.parse mixedFrames.logging.level ≠ .error .torn ∧
      mixedFrames.errors? = some [.emptyName 0, .invalidAddress "api_v2" "nowhere",
        .duplicateFrame "api_v2", .emptyName 4, .duplicateFrame "api", .sharedAddress "127.0.0.1:3"] ∧
      Agreement mixedFrames [.emptyName 0, .invalidAddress "api_v2" "nowhere",
        .duplicateFrame "api_v2", .emptyName 4, .duplicateFrame "api", .sharedAddress "127.0.0.1:3"]) ∧
    soundFrames.errors? = some [] ∧ Agreement soundFrames [] := by
  have whole : Log.Filter.parse mixedFrames.logging.level ≠ .error .torn := nofun
  have errors : mixedFrames.errors? = some [.emptyName 0, .invalidAddress "api_v2" "nowhere",
      .duplicateFrame "api_v2", .emptyName 4, .duplicateFrame "api", .sharedAddress "127.0.0.1:3"] := by
    decide
  have none : soundFrames.errors? = some [] := by decide
  obtain ⟨found, same, mixed⟩ := identities_agree mixedFrames whole
  cases errors.symm.trans same
  obtain ⟨found, same, sound⟩ := identities_agree soundFrames nofun
  cases none.symm.trans same
  exact ⟨⟨whole, errors, mixed⟩, none, sound⟩

end Config

end FrameHost
