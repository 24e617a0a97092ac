import Mathlib.Data.List.Induction
import FrameHost.Config.Loading
import FrameHost.Proofs.Config.Identities
import FrameHost.Proofs.Past

/-! What is wrong with a configuration, each frame being compared with those before it.

Validation looks at the frames one by one and only remembers keys and addresses. What it remembers are
those of the frames with names that it has passed, so its errors are the violations and nothing else, and
a configuration is accepted exactly if it is sound. -/

set_option autoImplicit false

namespace FrameHost.Config

def FrameEntry.HasKey (f : FrameEntry) (key : String) : Prop := f.name ≠ "" ∧ f.id.key = key

/-- Whether a frame with a name asks for an address, however that is written. -/
def FrameEntry.AsksFor (f : FrameEntry) (address : Net.SocketAddress) : Prop :=
  f.name ≠ "" ∧ Net.SocketAddress.parse? f.bindAddress = some address

instance (f : FrameEntry) (key : String) : Decidable (f.HasKey key) := inferInstanceAs (Decidable (_ ∧ _))

instance (f : FrameEntry) (address : Net.SocketAddress) : Decidable (f.AsksFor address) :=
  inferInstanceAs (Decidable (_ ∧ _))

def addressViolations (earlier : List FrameEntry) (f : FrameEntry) : List ValidationError :=
  match Net.SocketAddress.parse? f.bindAddress with
  | some address => if ∃ g ∈ earlier, g.AsksFor address then [.sharedAddress f.bindAddress] else []
  | none => [.invalidAddress f.id.key f.bindAddress]

/-- What is wrong with a frame that comes after others. -/
def frameViolations (earlier : List FrameEntry) (f : FrameEntry) : List ValidationError :=
  if f.name = "" then [.emptyName earlier.length]
  else
    (if ∃ g ∈ earlier, g.HasKey f.id.key then [.duplicateFrame f.id.key] else [])
      ++ addressViolations earlier f
      ++ if f.requestTimeoutSeconds = 0 then [.zeroValue ("frames." ++ f.id.key ++ ".request_timeout_secs")]
        else []

def framesViolations (earlier frames : List FrameEntry) : List ValidationError :=
  (frames.mapIdx fun i f => frameViolations (earlier ++ frames.take i) f).flatten

/-- Everything that is wrong with a configuration, in the order in which it is told. -/
def violations [Log.Patterns] (c : Config) : List ValidationError :=
  (if c.lifecycle.shutdownTimeoutSeconds = 0 then [.zeroValue "lifecycle.shutdown_timeout_secs"] else [])
    ++ (if (Log.Filter.parse c.logging.level).toBool then [] else [.logLevel c.logging.level])
    ++ (if c.observability.metricsEnabled ∧ Net.SocketAddress.parse? c.observability.metricsAddress = none then
        [.metricsAddress c.observability.metricsAddress] else [])
    ++ framesViolations [] c.frames

/-- A list of frames that can be hosted together. -/
structure FramesSound (frames : List FrameEntry) : Prop where
  named : ∀ f ∈ frames, f.name ≠ ""
  keys : (frames.map fun f => f.id.key).Nodup
  parsed : ∀ f ∈ frames, Net.SocketAddress.parse? f.bindAddress ≠ none
  addresses : (frames.map fun f => Net.SocketAddress.parse? f.bindAddress).Nodup
  timeouts : ∀ f ∈ frames, f.requestTimeoutSeconds ≠ 0

/-- A configuration that can be acted on. -/
structure Sound [Log.Patterns] (c : Config) : Prop where
  shutdownTimeout : c.lifecycle.shutdownTimeoutSeconds ≠ 0
  level : (Log.Filter.parse c.logging.level).toBool = true
  metrics : c.observability.metricsEnabled = true →
    Net.SocketAddress.parse? c.observability.metricsAddress ≠ none
  frames : FramesSound c.frames

section
variable {taken : Taken} {earlier frames : List FrameEntry} {f : FrameEntry}

theorem framesViolations_cons (earlier : List FrameEntry) (f : FrameEntry) (rest : List FrameEntry) :
    framesViolations earlier (f :: rest) =
      frameViolations earlier f ++ framesViolations (earlier ++ [f]) rest := by
  simp only [framesViolations, List.mapIdx_cons, List.take_zero, List.append_nil, List.flatten_cons,
    List.take_succ_cons, List.append_assoc, List.singleton_append]

/-- What is remembered of the frames that have been passed. -/
structure Covers (taken : Taken) (earlier : List FrameEntry) : Prop where
  keys : ∀ key, key ∈ taken.keys ↔ ∃ g ∈ earlier, g.HasKey key
  addresses : ∀ address, address ∈ taken.addresses ↔ ∃ g ∈ earlier, g.AsksFor address

theorem Covers.nil : Covers {} [] := ⟨by simp, by simp⟩

theorem FrameEntry.hasKey_iff (named : f.name ≠ "") {key : String} : f.HasKey key ↔ f.id.key = key :=
  and_iff_right named

theorem FrameEntry.asksFor_iff (named : f.name ≠ "") {address : Net.SocketAddress} :
    f.AsksFor address ↔ Net.SocketAddress.parse? f.bindAddress = some address := and_iff_right named

theorem Covers.addressErrors (covers : Covers taken earlier) (named : f.name ≠ "") :
    (addressErrors taken.addresses f.id.key f).1 = addressViolations earlier f ∧
      ∀ address, address ∈ (addressErrors taken.addresses f.id.key f).2 ↔
        ∃ g ∈ earlier ++ [f], g.AsksFor address := by
  simp only [exists_concat_iff, FrameEntry.asksFor_iff named, ← covers.addresses]
  unfold Config.addressErrors addressViolations
  cases parsed : Net.SocketAddress.parse? f.bindAddress with
  | none => exact ⟨rfl, fun address => (or_iff_left nofun).symm⟩
  | some own =>
    simp only [← covers.addresses, Option.some.injEq]
    by_cases shared : own ∈ taken.addresses
    · -- An address that is taken is not remembered again, which makes no difference.
      simp only [if_pos shared, true_and]
      exact fun address => (or_iff_left_of_imp fun again => again ▸ shared).symm
    · simp only [if_neg shared, List.mem_cons, true_and]
      intro address
      exact ⟨fun member => member.symm.imp id Eq.symm, fun member => (member.imp id Eq.symm).symm⟩

/-- One frame: the errors are the violations, and the frame is remembered with those before it. -/
theorem Covers.frameErrors (covers : Covers taken earlier) (f : FrameEntry) :
    (frameErrors taken earlier.length f).1 = frameViolations earlier f ∧
      Covers (frameErrors taken earlier.length f).2 (earlier ++ [f]) := by
  by_cases unnamed : f.name = ""
  · rw [frameErrors_of_unnamed taken earlier.length unnamed, frameViolations, if_pos unnamed]
    -- A frame without a name is not remembered, and has neither a key nor an address to share.
    refine ⟨rfl, ⟨fun key => ?_, fun address => ?_⟩⟩
    · rw [exists_concat_iff, or_iff_left fun has => has.1 unnamed, covers.keys]
    · rw [exists_concat_iff, or_iff_left fun asks => asks.1 unnamed, covers.addresses]
  · obtain ⟨address, addresses⟩ := covers.addressErrors unnamed
    refine ⟨?_, ⟨fun key => ?_, ?_⟩⟩
    · simp only [Config.frameErrors, frameViolations, if_neg unnamed, address, covers.keys]
    · rw [(frameErrors_of_named taken earlier.length unnamed).2, List.mem_cons, exists_concat_iff, covers.keys,
        FrameEntry.hasKey_iff unnamed, or_comm, eq_comm]
    · simpa only [Config.frameErrors, if_neg unnamed] using addresses

/-- All frames: as long as those passed are remembered, the errors are the violations. -/
theorem Covers.framesErrors (covers : Covers taken earlier) (frames : List FrameEntry) :
    framesErrors taken earlier.length frames = framesViolations earlier frames := by
  -- The frames passed so far grow while the list shrinks, and what is remembered follows them.
  induction frames generalizing taken earlier with
  | nil => rfl
  | cons f rest ih =>
    obtain ⟨errors, remembered⟩ := covers.frameErrors f
    have later := ih remembered
    rw [List.length_append, List.length_singleton] at later
    rw [framesViolations_cons, ← errors, ← later]
    rfl

theorem addressViolations_eq_nil_iff : addressViolations earlier f = [] ↔
    ∃ address, Net.SocketAddress.parse? f.bindAddress = some address ∧ ¬∃ g ∈ earlier, g.AsksFor address := by
  unfold addressViolations
  cases Net.SocketAddress.parse? f.bindAddress <;> simp

theorem frameViolations_eq_nil_iff : frameViolations earlier f = [] ↔
    f.name ≠ "" ∧ (¬∃ g ∈ earlier, g.HasKey f.id.key) ∧
      (∃ address, Net.SocketAddress.parse? f.bindAddress = some address ∧ ¬∃ g ∈ earlier, g.AsksFor address) ∧
      f.requestTimeoutSeconds ≠ 0 := by
  unfold frameViolations
  split
  · simp [*]
  · rename_i named
    rw [List.append_eq_nil_iff, List.append_eq_nil_iff, addressViolations_eq_nil_iff]
    simp [named, and_assoc]

theorem framesViolations_append (earlier frames more : List FrameEntry) :
    framesViolations earlier (frames ++ more) =
      framesViolations earlier frames ++ framesViolations (earlier ++ frames) more := by
  induction frames generalizing earlier with
  | nil => simp [framesViolations]
  | cons f rest ih =>
    simp only [List.cons_append, framesViolations_cons, ih, List.append_assoc, List.nil_append]

theorem framesViolations_concat (frames : List FrameEntry) (f : FrameEntry) :
    framesViolations [] (frames ++ [f]) = framesViolations [] frames ++ frameViolations frames f := by
  rw [framesViolations_append, framesViolations_cons, List.nil_append]
  exact congrArg _ (List.append_nil _)

theorem nodup_map_concat {α : Type} {g : FrameEntry → α} :
    ((frames ++ [f]).map g).Nodup ↔ (frames.map g).Nodup ∧ ¬∃ h ∈ frames, g h = g f := by
  simp [List.nodup_append, List.mem_map]

theorem framesSound_concat :
    FramesSound (frames ++ [f]) ↔ FramesSound frames ∧ frameViolations frames f = [] := by
  rw [frameViolations_eq_nil_iff]
  constructor
  · intro sound
    have named := List.forall_mem_append.mp sound.named
    have parsed := List.forall_mem_append.mp sound.parsed
    have timeouts := List.forall_mem_append.mp sound.timeouts
    obtain ⟨keys, fresh⟩ := nodup_map_concat.mp sound.keys
    obtain ⟨addresses, free⟩ := nodup_map_concat.mp sound.addresses
    obtain ⟨address, own⟩ := Option.ne_none_iff_exists'.mp (parsed.2 f (List.mem_singleton_self f))
    refine ⟨⟨named.1, keys, parsed.1, addresses, timeouts.1⟩, named.2 f (List.mem_singleton_self f), ?_,
      ⟨address, own, ?_⟩, timeouts.2 f (List.mem_singleton_self f)⟩
    · exact fun ⟨g, member, has⟩ => fresh ⟨g, member, has.2⟩
    · exact fun ⟨g, member, asks⟩ => free ⟨g, member, asks.2.trans own.symm⟩
  · rintro ⟨sound, named, fresh, ⟨address, own, free⟩, timeout⟩
    refine ⟨?_, nodup_map_concat.mpr ⟨sound.keys, ?_⟩, ?_, nodup_map_concat.mpr ⟨sound.addresses, ?_⟩, ?_⟩
    · exact List.forall_mem_append.mpr ⟨sound.named, List.forall_mem_singleton.mpr named⟩
    · exact fun ⟨g, member, same⟩ => fresh ⟨g, member, sound.named g member, same⟩
    · refine List.forall_mem_append.mpr ⟨sound.parsed, List.forall_mem_singleton.mpr ?_⟩
      rw [own]
      nofun
    · exact fun ⟨g, member, same⟩ => free ⟨g, member, sound.named g member, same.trans own⟩
    · exact List.forall_mem_append.mpr ⟨sound.timeouts, List.forall_mem_singleton.mpr timeout⟩

theorem framesViolations_eq_nil_iff : framesViolations [] frames = [] ↔ FramesSound frames := by
  -- A frame is compared with those before it, so the last one is taken off first.
  induction frames using List.reverseRecOn with
  | nil => exact ⟨fun _ => ⟨nofun, .nil, nofun, .nil, nofun⟩, fun _ => rfl⟩
  | append_singleton frames f ih =>
    rw [framesViolations_concat, List.append_eq_nil_iff, ih, framesSound_concat]

theorem violations_eq_nil_iff [Log.Patterns] (c : Config) : violations c = [] ↔ Sound c := by
  simp only [violations, List.append_eq_nil_iff, framesViolations_eq_nil_iff, ite_eq_left_iff, ite_eq_right_iff,
    List.cons_ne_nil, imp_false, not_and, Bool.not_eq_true]
  constructor
  · rintro ⟨⟨⟨shutdownTimeout, level⟩, metrics⟩, frames⟩
    exact ⟨shutdownTimeout, by simpa using level, metrics, frames⟩
  · rintro ⟨shutdownTimeout, level, metrics, frames⟩
    exact ⟨⟨⟨shutdownTimeout, by simpa using level⟩, metrics⟩, frames⟩

theorem levelErrors?_eq [Log.Patterns] {level : String} (whole : Log.Filter.parse level ≠ .error .torn) :
    levelErrors? level = some (if (Log.Filter.parse level).toBool then [] else [.logLevel level]) := by
  unfold levelErrors?
  split
  · rename_i read
    rw [read]
    rfl
  · rename_i torn
    exact (whole torn).elim
  · rename_i defect _ read
    rw [read]
    rfl

theorem errors?_eq_violations [Log.Patterns] {c : Config} (whole : Log.Filter.parse c.logging.level ≠ .error .torn) :
    c.errors? = some (violations c) := by
  have frames : framesErrors {} 0 c.frames = framesViolations [] c.frames := Covers.nil.framesErrors c.frames
  rw [errors?, levelErrors?_eq whole, Option.map_some, frames]
  rfl

/-- The errors of a configuration whose log level is no torn text are its violations, in their order. It is
accepted if there are none, which means that it is sound, and refused with all of them otherwise. -/
theorem errors_are_violations [Log.Patterns] (c : Config) (whole : Log.Filter.parse c.logging.level ≠ .error .torn) :
    c.errors? = some (violations c) ∧
      validated c = (if violations c = [] then .ok c else .error (.validation (violations c))) ∧
      (violations c = [] ↔ Sound c) := by
  have errors : c.errors? = some (violations c) := errors?_eq_violations whole
  refine ⟨errors, ?_, violations_eq_nil_iff c⟩
  unfold validated
  rw [errors]
  cases violations c <;> rfl

/-- Violations of every kind, several of them in one frame. The frame without a name spoils nothing for
those after it, and one address is spelled in two ways. -/
def troubledConfig : Config :=
  { lifecycle := { shutdownTimeoutSeconds := 0 }
    logging := { level := "frame_host=loud" }
    observability := { metricsEnabled := true, metricsAddress := "nowhere" }
    frames := [{ name := "", bindAddress := "[::1]:80", requestTimeoutSeconds := 0 },
      { name := "api", version := some "v2", bindAddress := "[::1]:80" },
      { name := "api_v2", bindAddress := "[0:0:0:0:0:0:0:1]:80", requestTimeoutSeconds := 0 },
      { name := "", bindAddress := "" }, { name := "web", version := some "", bindAddress := "localhost:80" }] }

def troubles : List ValidationError :=
  [.zeroValue "lifecycle.shutdown_timeout_secs", .logLevel "frame_host=loud", .metricsAddress "nowhere",
    .emptyName 0, .duplicateFrame "api_v2", .sharedAddress "[0:0:0:0:0:0:0:1]:80",
    .zeroValue "frames.api_v2.request_timeout_secs", .emptyName 3, .invalidAddress "web" "localhost:80"]

theorem errors_are_violations_troubledConfig :
    (Log.Filter.parse troubledConfig.logging.level ≠ .error .torn ∧ violations troubledConfig = troubles ∧
      troubledConfig.errors? = some troubles ∧ validated troubledConfig = .error (.validation troubles)) ∧
    validated soundFrames = .ok soundFrames ∧ Sound soundFrames := by
  have told : violations troubledConfig = troubles := by decide
  have whole : Log.Filter.parse troubledConfig.logging.level ≠ .error .torn := by decide
  have silent : violations soundFrames = [] := by decide
  obtain ⟨errors, answer, -⟩ := errors_are_violations troubledConfig whole
  obtain ⟨-, accepted, sound⟩ := errors_are_violations soundFrames (by decide)
  rw [told] at errors answer
  rw [silent] at accepted
  exact ⟨⟨whole, told, errors, answer⟩, accepted, sound.mp silent⟩

end

end FrameHost.Config
