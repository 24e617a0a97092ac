import FrameHost.Proofs.Host.Run
import FrameHost.Proofs.Keys
import FrameHost.Proofs.Registry

/-! What a name and a version stand for in a registry and in a host.

A registry holds one frame to a key, but a key may be that of several identities. As long as no name
holds an underscore, whoever asks for a name and a version is answered for a frame of exactly these. -/

set_option autoImplicit false

namespace FrameHost

namespace Registry
variable {r : Registry} {id : FrameId} {name : String} {version : Option String}

/-- No registered name holds an underscore. -/
def Unbroken (r : Registry) : Prop := ∀ id ∈ r.frames, FrameId.Unbroken id.name

instance (r : Registry) : Decidable r.Unbroken := inferInstanceAs (Decidable (∀ id ∈ r.frames, _))

theorem Unbroken.has_key_iff (unbroken : r.Unbroken) (plain : FrameId.Unbroken name) (member : id ∈ r.frames) :
    id.key = keyFor name version ↔ id = .ofParts name version := by
  rw [← FrameId.key_ofParts]
  constructor
  · exact FrameId.eq_of_key_eq (unbroken id member) ((FrameId.name_ofParts name version).symm ▸ plain)
  · exact congrArg FrameId.key

theorem Valid.place?_eq_some_iff (valid : r.Valid) {i : Nat} :
    r.place? name version = some i ↔ ∃ id, r.frames[i]? = some id ∧ id.key = keyFor name version := by
  rw [place?, List.findIdx?_eq_some_iff_getElem]
  constructor
  · rintro ⟨bound, key, -⟩
    exact ⟨r.frames[i], List.getElem?_eq_getElem bound, by simpa using key⟩
  · rintro ⟨id, here, key⟩
    obtain ⟨bound, rfl⟩ := List.getElem?_eq_some_iff.mp here
    refine ⟨bound, by simpa using key, fun j before found => ?_⟩
    -- A frame further ahead with this key would be another one to the same key.
    have there := List.getElem?_eq_getElem (Nat.lt_trans before bound)
    have place := valid.place_unique there here (by simpa [key] using found)
    exact absurd place (Nat.ne_of_lt before)

end Registry

namespace Host
variable {clock : Clock} {startInterval shutdownTimeout : Duration} {past : List Moment} {h : Host}
  {name : String} {version : Option String}

theorem Run.valid (run : Run (newAt clock startInterval shutdownTimeout) past h) : h.registry.Valid := by
  induction run with
  | start => exact Registry.after_valid []
  | step run stepped ih =>
    obtain ⟨parts, metrics, moved, rfl⟩ := Parts.of_step stepped
    cases moved with
    | @registration e registrar happenings moved =>
      change registrar.registry.Valid
      rcases registrar_cases moved with same | ⟨id, accepted⟩
      · rw [same]
        exact ih
      · exact ih.tryRegister accepted
    | _ => exact ih

theorem Run.isRunning_iff (run : Run (newAt clock startInterval shutdownTimeout) past h) :
    h.isRunning name version = true ↔
      ∃ i id, h.registry.frames[i]? = some id ∧ id.key = keyFor name version ∧ h.isRunningAt i = true := by
  rw [isRunning, Option.any_eq_true]
  simp only [run.valid.place?_eq_some_iff]
  constructor
  · rintro ⟨i, ⟨id, here, key⟩, running⟩
    exact ⟨i, id, here, key, running⟩
  · rintro ⟨i, id, here, key, running⟩
    exact ⟨i, ⟨id, here, key⟩, running⟩

/-- What keys stand for. -/
structure Naming : Prop where
  /-- Keys collide exactly where the version of one identity begins with what the name of the other one
  goes on with. -/
  collisions : ∀ name version name' version', keyFor name version = keyFor name' version' ↔
    FrameId.ofParts name version = .ofParts name' version' ∨
    (FrameId.ofParts name version).Shadows (.ofParts name' version') ∨
    (FrameId.ofParts name' version').Shadows (.ofParts name version)
  injective : ∀ a b : FrameId, FrameId.Unbroken a.name → FrameId.Unbroken b.name → (a.key = b.key ↔ a = b)
  /-- In a registry of names without underscores a frame is found by its own name and version only,
  whatever calls have made the registry. -/
  found : ∀ calls name version, (Registry.after calls).Unbroken → FrameId.Unbroken name →
    ∀ id, Registry.answer calls (.lookup name version) = .found (some id) ↔
      id = .ofParts name version ∧ id ∈ (Registry.after calls).frames
  /-- In a host of such names a name and version is running exactly if the frame of that name and version
  is registered and running. -/
  running : ∀ clock startInterval shutdownTimeout past h,
    Run (newAt clock startInterval shutdownTimeout) past h → h.registry.Unbroken →
    ∀ name version, FrameId.Unbroken name → (h.isRunning name version = true ↔
      ∃ i, h.registry.frames[i]? = some (.ofParts name version) ∧ h.isRunningAt i = true)
  /-- However often a version is replaced, the last one counts, and all ways to the key agree. -/
  versions : ∀ (id : FrameId) (versions : List String),
    let last := versions.getLast?.or id.version
    let final := versions.foldl FrameId.withVersion id
    final = .ofParts id.name last ∧ final.key = keyFor id.name last ∧ final.text = keyFor id.name last ∧
      keyFor final.name final.version = keyFor id.name last ∧
      ∀ f : Config.FrameEntry, f.name = id.name → f.version = last → f.id = final

/-- Keys stand for what they are meant to stand for, as far as names hold no underscores. -/
theorem naming_exact : Naming where
  collisions name version name' version' := by
    rw [← FrameId.key_ofParts, ← FrameId.key_ofParts, FrameId.key_eq_key_iff]
  injective a b first second := ⟨FrameId.eq_of_key_eq first second, congrArg FrameId.key⟩
  found calls name version unbroken plain id := by
    have found : Registry.answer calls (.lookup name version) = .found (some id) ↔
        (Registry.after calls).lookup name version = some id :=
      ⟨Registry.answer_lookup, congrArg Registry.Answer.found⟩
    rw [found, (Registry.after_valid calls).lookup_iff]
    constructor
    · rintro ⟨member, key⟩
      exact ⟨(unbroken.has_key_iff plain member).mp key, member⟩
    · rintro ⟨same, member⟩
      exact ⟨member, (unbroken.has_key_iff plain member).mpr same⟩
  running clock startInterval shutdownTimeout past h run unbroken name version plain := by
    rw [run.isRunning_iff]
    constructor
    · rintro ⟨i, id, here, key, running⟩
      cases (unbroken.has_key_iff plain (List.mem_of_getElem? here)).mp key
      exact ⟨i, here, running⟩
    · rintro ⟨i, here, running⟩
      exact ⟨i, _, here, FrameId.key_ofParts name version, running⟩
  versions id versions := by
    have final := FrameId.foldl_withVersion id versions
    have key : (versions.foldl FrameId.withVersion id).key = keyFor id.name (versions.getLast?.or id.version) := by
      rw [final, FrameId.key_ofParts]
    refine ⟨final, key, (FrameId.text_eq_key _).trans key, key, fun f name version => ?_⟩
    rw [final, Config.FrameEntry.id, name, version]

/-- Two versions of a name, of which the second is running. -/
def twoVersions : List Event :=
  [.registration (.attempt (.ofParts "api" none)), .registration (.attempt (.ofParts "api" (some "v2"))),
    .flag 1 true]

theorem naming_exact_twoVersions :
    keyFor "api" (some "v2_beta") = keyFor "api_v2" (some "beta") ∧
    (∀ id, Registry.answer [.register (.ofName "api"), .tryRegister (.ofParts "api" (some "v2"))]
        (.lookup "api" (some "v2")) = .found (some id) ↔
      id = .ofParts "api" (some "v2") ∧ id ∈ [.ofName "api", FrameId.ofParts "api" (some "v2")]) ∧
    ∃ past h, (newAt .fresh ⟨50⟩ ⟨60000⟩).run? twoVersions = some (past, h) ∧ h.registry.Unbroken ∧
      h.isRunning "api" (some "v2") = true ∧ h.isRunning "api" (some "") = false := by
  obtain ⟨⟨past, h⟩, ran⟩ : ∃ result, (newAt .fresh ⟨50⟩ ⟨60000⟩).run? twoVersions = some result := ⟨_, rfl⟩
  have seen : ((newAt .fresh ⟨50⟩ ⟨60000⟩).run? twoVersions).map (fun result =>
      (result.2.registry.frames, result.2.running)) =
      some ([.ofName "api", FrameId.ofParts "api" (some "v2")], [false, true]) := by
    decide
  rw [ran] at seen
  obtain ⟨frames, running⟩ : h.registry.frames = _ ∧ h.running = _ := Prod.mk.inj (Option.some.inj seen)
  have unbroken : h.registry.Unbroken := by
    intro id member
    rw [frames] at member
    revert id
    decide
  have plain : FrameId.Unbroken "api" := by decide
  have at_places := naming_exact.running _ _ _ past h (Run.of_start ran) unbroken "api"
  refine ⟨?_, ?_, past, h, ran, unbroken, ?_, ?_⟩
  · exact (naming_exact.collisions ..).mpr (.inr (.inl ⟨"v2", by decide, by decide⟩))
  · exact naming_exact.found _ "api" (some "v2") (by decide) plain
  · exact (at_places (some "v2") plain).mpr ⟨1, by simp [frames], by simp [isRunningAt, running]⟩
  · rw [← Bool.not_eq_true, at_places (some "") plain]
    rintro ⟨i, here, busy⟩
    rw [frames] at here
    match i with
    | 0 => simp [isRunningAt, running] at busy
    | 1 => exact absurd here (by decide)
    | i + 2 => simp at here

end Host

end FrameHost
