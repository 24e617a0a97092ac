import FrameHost.Proofs.Config.Complaints

/-! Which frames validation covers.

The address and the timeout of a frame with a name are always looked at, whatever else is wrong with it.
Those of a frame without a name are not, nor do other frames learn of its address, so that errors come up
once the frame is given a name. -/

set_option autoImplicit false

namespace FrameHost.Config

structure Coverage [Log.Patterns] (c : Config) (errors : List ValidationError) : Prop where
  invalid : ∀ key address,
    heard errors (.invalid key address) = c.frames.countP fun f => f.Astray key address
  zero : ∀ f : FrameEntry,
    heard errors (.zero f.timeoutField) = c.frames.countP fun g => g.Hasty f.timeoutField
  shared : ∀ address, heard errors (.shared (some address)) =
    c.frames.countP (fun f => f.AsksFor address) - 1
  unnamed : heard errors .unnamed = c.frames.countP fun f => f.name = ""
  /-- Without a name it makes no difference what else a frame has. -/
  hidden : ∀ before f after, c.frames = before ++ f :: after → f.name = "" → ∀ g : FrameEntry, g.name = "" →
    { c with frames := before ++ g :: after }.errors? = some errors
  /-- A frame that is given a name brings up all that it prompts, and nothing else. -/
  revealed : ∀ before f after name, c.frames = before ++ f :: after → f.name = "" → name ≠ "" →
    ∃ errors', { c with frames := before ++ { f with name } :: after }.errors? = some errors' ∧
      ∀ x, x ≠ .unnamed → heard errors' x =
        heard errors x + if FrameEntry.Prompts { f with name } (before ++ after) x then 1 else 0

section
variable {c : Config} {before after : List FrameEntry} {f g : FrameEntry} {taken : Taken} {index : Nat}

theorem timeoutField_ne (f : FrameEntry) : f.timeoutField ≠ "lifecycle.shutdown_timeout_secs" := by
  intro same
  have letters := congrArg String.toList same
  simp [FrameEntry.timeoutField] at letters

theorem heard_settings [Log.Patterns] {x : Complaint} (level : x.kind ≠ .logLevel) (metrics : x.kind ≠ .metricsAddress)
    (field : x ≠ .zero "lifecycle.shutdown_timeout_secs") : heard (violations { c with frames := [] }) x = 0 := by
  unfold heard
  rw [List.count_eq_zero]
  intro member
  obtain ⟨e, told, rfl⟩ := List.mem_map.mp member
  simp only [violations, framesViolations, List.mapIdx_nil, List.flatten_nil, List.append_nil,
    List.mem_append, List.mem_ite_nil_right, List.mem_ite_nil_left, List.mem_singleton] at told
  rcases told with (⟨-, rfl⟩ | ⟨-, rfl⟩) | ⟨-, rfl⟩
  · exact field rfl
  · exact level rfl
  · exact metrics rfl

theorem framesErrors_unnamed (unnamed : f.name = "") (unnamed' : g.name = "") :
    framesErrors taken index (before ++ f :: after) = framesErrors taken index (before ++ g :: after) := by
  induction before generalizing taken index with
  | nil => simp only [List.nil_append, framesErrors, frameErrors_of_unnamed taken index unnamed,
      frameErrors_of_unnamed taken index unnamed']
  | cons h rest ih => simp only [List.cons_append, framesErrors, ih]

theorem tally_middle (x : Complaint) : tally (before ++ f :: after) x =
    tally (before ++ after) x + if f.Prompts (before ++ after) x then 1 else 0 := by
  rw [← tally_concat]
  apply tally_perm
  exact List.perm_middle.trans (List.perm_append_singleton f _).symm

/-- What is told of a frame with a name is told whatever else is wrong; of a frame without one nothing is
told but that. -/
theorem only_named_frames_covered [Log.Patterns] (c : Config)
    (whole : Log.Filter.parse c.logging.level ≠ .error .torn) :
    ∃ errors, c.errors? = some errors ∧ Coverage c errors := by
  have counted (x : Complaint) (level : x.kind ≠ .logLevel) (metrics : x.kind ≠ .metricsAddress)
      (field : x ≠ .zero "lifecycle.shutdown_timeout_secs") : heard (violations c) x = tally c.frames x := by
    rw [heard_violations, heard_settings level metrics field, Nat.zero_add]
  refine ⟨_, errors?_eq_violations whole, ?_, ?_, ?_, ?_, ?_, ?_⟩
  · intro key address
    exact counted (.invalid key address) nofun nofun nofun
  · intro f
    refine counted (.zero f.timeoutField) nofun nofun fun same => ?_
    exact timeoutField_ne f (Complaint.zero.inj same)
  · intro address
    exact counted (.shared (some address)) nofun nofun nofun
  · exact counted .unnamed nofun nofun nofun
  · intro before f after split unnamed g unnamed'
    rw [← errors?_eq_violations whole]
    unfold errors?
    simp only [split, framesErrors_unnamed unnamed unnamed']
  · intro before f after name split unnamed named
    refine ⟨_, errors?_eq_violations whole, fun x apart => ?_⟩
    rw [heard_violations c, heard_violations, split, tally_middle, tally_middle]
    -- Without the name the frame gave rise to one complaint only.
    have silent : ¬f.Prompts (before ++ after) x := mt (FrameEntry.prompts_of_unnamed unnamed).mp apart
    rw [if_neg silent, Nat.add_zero, Nat.add_assoc]

end

/-- Two frames at one address, of which the first has no name and leaves its requests no time; and a third
without a name whose address is none. -/
def hidingConfig : Config :=
  { frames := [{ name := "", bindAddress := "127.0.0.1:1", requestTimeoutSeconds := 0 },
      { name := "api", bindAddress := "127.0.0.1:1" }, { name := "", version := some "v2", bindAddress := "nowhere" }] }

def namedFrame : FrameEntry := { name := "web", bindAddress := "127.0.0.1:1", requestTimeoutSeconds := 0 }

def namedConfig : Config :=
  { frames := [namedFrame, { name := "api", bindAddress := "127.0.0.1:1" },
      { name := "old", version := some "v2", bindAddress := "nowhere" }] }

/-- A frame without a name hides its address, one that it shares and its timeout, until it is given a name. -/
theorem unnamed_frame_hides :
    hidingConfig.errors? = some [.emptyName 0, .emptyName 2] ∧
      (∃ f ∈ hidingConfig.frames, Net.SocketAddress.parse? f.bindAddress = none) ∧
      (∃ f ∈ hidingConfig.frames, f.requestTimeoutSeconds = 0) ∧
      (∃ f g rest, hidingConfig.frames = f :: g :: rest ∧
        Net.SocketAddress.parse? f.bindAddress = Net.SocketAddress.parse? g.bindAddress ∧
        Net.SocketAddress.parse? g.bindAddress ≠ none) ∧
      namedConfig.errors? = some [.zeroValue "frames.web.request_timeout_secs", .sharedAddress "127.0.0.1:1",
        .invalidAddress "old_v2" "nowhere"] := by
  refine ⟨by decide, ⟨_, List.mem_of_getElem? (i := 2) rfl, by decide⟩, ⟨_, List.mem_of_getElem? (i := 0) rfl, rfl⟩,
    ⟨_, _, _, rfl, rfl, by decide⟩, by decide⟩

theorem only_named_frames_covered_hidingConfig :
    Log.Filter.parse hidingConfig.logging.level ≠ .error .torn ∧
      hidingConfig.errors? = some [.emptyName 0, .emptyName 2] ∧
      Coverage hidingConfig [.emptyName 0, .emptyName 2] ∧
      ∃ errors', { hidingConfig with frames := namedFrame :: hidingConfig.frames.drop 1 }.errors? = some errors' ∧
        heard errors' (.zero "frames.web.request_timeout_secs") = 1 ∧
        heard errors' (.shared (Net.SocketAddress.parse? "127.0.0.1:1")) = 1 ∧
        heard errors' (.invalid "_v2" "nowhere") = 0 := by
  have whole : Log.Filter.parse hidingConfig.logging.level ≠ .error .torn := by decide
  have told : hidingConfig.errors? = some [.emptyName 0, .emptyName 2] := by decide
  obtain ⟨errors, same, covered⟩ := only_named_frames_covered hidingConfig whole
  cases told.symm.trans same
  obtain ⟨errors', after, brought⟩ := covered.revealed [] _ _ "web" rfl rfl (by decide)
  refine ⟨whole, told, covered, errors', after, ?_, ?_, ?_⟩
  · rw [brought (.zero _) nofun]
    decide
  · rw [brought (.shared _) nofun]
    decide
  · rw [brought (.invalid _ _) nofun]
    decide

end FrameHost.Config
