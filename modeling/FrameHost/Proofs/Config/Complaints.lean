import FrameHost.Proofs.Config.Violations

/-! What the errors of a configuration say when their order does not matter.

An error names the place of a frame or spells an address. Without these it is a complaint, and how often
each complaint is made can be counted on the frames in any order. -/

set_option autoImplicit false

namespace FrameHost.Config

inductive Complaint where
  | unnamed
  | duplicate (key : String)
  | invalid (key address : String)
  | shared (address : Option Net.SocketAddress)
  | zero (field : String)
  | level (text : String)
  | metrics (text : String)
  deriving DecidableEq

def ValidationError.complaint : ValidationError → Complaint
  | .emptyName _ => .unnamed
  | .duplicateFrame key => .duplicate key
  | .invalidAddress key address => .invalid key address
  | .sharedAddress address => .shared (Net.SocketAddress.parse? address)
  | .zeroValue field => .zero field
  | .logLevel text => .level text
  | .metricsAddress text => .metrics text

inductive ErrorKind where
  | emptyName | duplicateFrame | invalidAddress | sharedAddress | zeroValue | logLevel | metricsAddress
  deriving DecidableEq

def ValidationError.kind : ValidationError → ErrorKind
  | .emptyName _ => .emptyName
  | .duplicateFrame _ => .duplicateFrame
  | .invalidAddress .. => .invalidAddress
  | .sharedAddress _ => .sharedAddress
  | .zeroValue _ => .zeroValue
  | .logLevel _ => .logLevel
  | .metricsAddress _ => .metricsAddress

def Complaint.kind : Complaint → ErrorKind
  | .unnamed => .emptyName
  | .duplicate _ => .duplicateFrame
  | .invalid .. => .invalidAddress
  | .shared _ => .sharedAddress
  | .zero _ => .zeroValue
  | .level _ => .logLevel
  | .metrics _ => .metricsAddress

/-- Whether an error about a frame is told in the same words wherever the frame stands. -/
def ValidationError.lasting : ValidationError → Bool
  | .duplicateFrame _ | .invalidAddress .. | .zeroValue _ => true
  | _ => false

def Complaint.lasting? : Complaint → Option ValidationError
  | .duplicate key => some (.duplicateFrame key)
  | .invalid key address => some (.invalidAddress key address)
  | .zero field => some (.zeroValue field)
  | _ => none

def ValidationError.sharedAt? : ValidationError → Option Net.SocketAddress
  | .sharedAddress address => Net.SocketAddress.parse? address
  | _ => none

def Complaint.sharedAt? : Complaint → Option Net.SocketAddress
  | .shared address => address
  | _ => none

/-- Two lists that tell of the same errors, but for the places of frames without names and for the
spelling of shared addresses. -/
structure Rearranged (errors errors' : List ValidationError) : Prop where
  kinds : ∀ kind, (errors.map ValidationError.kind).count kind = (errors'.map ValidationError.kind).count kind
  lasting : (errors.filter ValidationError.lasting).Perm (errors'.filter ValidationError.lasting)
  shared : (errors.filterMap ValidationError.sharedAt?).Perm (errors'.filterMap ValidationError.sharedAt?)

def FrameEntry.timeoutField (f : FrameEntry) : String := "frames." ++ f.id.key ++ ".request_timeout_secs"

/-- A frame with a name, whose address is no address. -/
def FrameEntry.Astray (f : FrameEntry) (key address : String) : Prop :=
  f.HasKey key ∧ f.bindAddress = address ∧ Net.SocketAddress.parse? address = none

/-- A frame with a name, which leaves its requests no time. -/
def FrameEntry.Hasty (f : FrameEntry) (field : String) : Prop :=
  f.name ≠ "" ∧ f.timeoutField = field ∧ f.requestTimeoutSeconds = 0

instance (f : FrameEntry) (key address : String) : Decidable (f.Astray key address) :=
  inferInstanceAs (Decidable (_ ∧ _))

instance (f : FrameEntry) (field : String) : Decidable (f.Hasty field) :=
  inferInstanceAs (Decidable (_ ∧ _))

/-- How often frames give rise to a complaint, in whichever order they stand. -/
def tally (frames : List FrameEntry) : Complaint → Nat
  | .unnamed => frames.countP fun f => f.name = ""
  | .duplicate key => frames.countP (fun f => f.HasKey key) - 1
  | .invalid key address => frames.countP fun f => f.Astray key address
  | .shared (some address) => frames.countP (fun f => f.AsksFor address) - 1
  | .zero field => frames.countP fun f => f.Hasty field
  | .shared none | .level _ | .metrics _ => 0

/-- Whether a frame that comes after others gives rise to a complaint. -/
def FrameEntry.Prompts (f : FrameEntry) (earlier : List FrameEntry) : Complaint → Prop
  | .unnamed => f.name = ""
  | .duplicate key => f.HasKey key ∧ ∃ g ∈ earlier, g.HasKey key
  | .invalid key address => f.Astray key address
  | .shared (some address) => f.AsksFor address ∧ ∃ g ∈ earlier, g.AsksFor address
  | .zero field => f.Hasty field
  | .shared none | .level _ | .metrics _ => False

instance (f : FrameEntry) (earlier : List FrameEntry) : (x : Complaint) → Decidable (f.Prompts earlier x)
  | .unnamed => inferInstanceAs (Decidable (f.name = ""))
  | .duplicate _ | .shared (some _) => inferInstanceAs (Decidable (_ ∧ _))
  | .invalid key address => inferInstanceAs (Decidable (f.Astray key address))
  | .zero field => inferInstanceAs (Decidable (f.Hasty field))
  | .shared none | .level _ | .metrics _ => inferInstanceAs (Decidable False)

section
variable {earlier frames frames' : List FrameEntry} {f : FrameEntry}

theorem countP_concat (p : FrameEntry → Prop) [DecidablePred p] (frames : List FrameEntry) (f : FrameEntry) :
    (frames ++ [f]).countP (fun g => p g) = frames.countP (fun g => p g) + if p f then 1 else 0 := by
  rw [List.countP_append, List.countP_singleton]
  simp only [decide_eq_true_eq]

/-- All of a kind but the first are blamed, so one more is blamed if there is one already. -/
theorem countP_concat_sub_one (p : FrameEntry → Prop) [DecidablePred p] (frames : List FrameEntry)
    (f : FrameEntry) : (frames ++ [f]).countP (fun g => p g) - 1 =
      frames.countP (fun g => p g) - 1 + if p f ∧ ∃ g ∈ frames, p g then 1 else 0 := by
  have met : 0 < frames.countP (fun g => p g) ↔ ∃ g ∈ frames, p g := by simp
  rw [countP_concat]
  by_cases here : p f
  · simp only [here, if_true, true_and]
    split
    · have := met.mpr ‹_›
      omega
    · have := mt met.mp ‹_›
      omega
  · simp [here]

theorem tally_concat (frames : List FrameEntry) (f : FrameEntry) (x : Complaint) :
    tally (frames ++ [f]) x = tally frames x + if f.Prompts frames x then 1 else 0 := by
  cases x with
  | unnamed => exact countP_concat _ frames f
  | duplicate key => exact countP_concat_sub_one _ frames f
  | invalid key address => exact countP_concat _ frames f
  | shared address =>
    cases address with
    | none => rfl
    | some address => exact countP_concat_sub_one _ frames f
  | zero field => exact countP_concat _ frames f
  | level | metrics => rfl

def heard (errors : List ValidationError) (x : Complaint) : Nat := (errors.map ValidationError.complaint).count x

theorem heard_append (errors errors' : List ValidationError) (x : Complaint) :
    heard (errors ++ errors') x = heard errors x + heard errors' x := by
  simp [heard]

theorem heard_if (p : Prop) [Decidable p] (error : ValidationError) (x : Complaint) :
    heard (if p then [error] else []) x = if p ∧ error.complaint = x then 1 else 0 := by
  by_cases holds : p
  · simp [heard, holds, List.count_singleton]
  · simp [heard, holds]

theorem heard_addressViolations (named : f.name ≠ "") (x : Complaint) :
    heard (addressViolations earlier f) x = match x with
      | .invalid key address => if f.Prompts earlier (.invalid key address) then 1 else 0
      | .shared address => if f.Prompts earlier (.shared address) then 1 else 0
      | _ => 0 := by
  unfold addressViolations
  cases parsed : Net.SocketAddress.parse? f.bindAddress with
  -- A text that is no address is complained of for itself and shared with nobody.
  | none =>
    cases x with
    | invalid key address =>
      have same : f.Prompts earlier (.invalid key address) ↔ f.id.key = key ∧ f.bindAddress = address := by
        rw [FrameEntry.Prompts, FrameEntry.Astray, FrameEntry.hasKey_iff named]
        exact ⟨fun astray => ⟨astray.1, astray.2.1⟩, fun ⟨key, spelled⟩ => ⟨key, spelled, spelled ▸ parsed⟩⟩
      simp [heard, ValidationError.complaint, List.count_singleton, same]
    | shared address =>
      have unasked : ¬f.Prompts earlier (.shared address) := by
        cases address with
        | none => exact id
        | some address => exact fun prompts => nomatch parsed.symm.trans prompts.1.2
      simp [heard, ValidationError.complaint, unasked]
    | _ => simp [heard, ValidationError.complaint]
  | some own =>
    simp only [heard_if, ValidationError.complaint, parsed]
    cases x with
    | invalid key address =>
      have found : ¬f.Prompts earlier (.invalid key address) := by
        rintro ⟨-, rfl, unparsed⟩
        exact nomatch parsed.symm.trans unparsed
      simp [found]
    | shared address =>
      cases address with
      | none => simp [FrameEntry.Prompts]
      | some address =>
        have same : f.Prompts earlier (.shared (some address)) ↔
            (∃ g ∈ earlier, g.AsksFor own) ∧ own = address := by
          rw [FrameEntry.Prompts, FrameEntry.asksFor_iff named, parsed, Option.some.injEq]
          constructor
          · rintro ⟨rfl, taken⟩
            exact ⟨taken, rfl⟩
          · rintro ⟨taken, rfl⟩
            exact ⟨rfl, taken⟩
        simp [same]
    | _ => simp

theorem FrameEntry.prompts_of_unnamed (unnamed : f.name = "") {x : Complaint} :
    f.Prompts earlier x ↔ x = .unnamed := by
  cases x with
  | unnamed => exact iff_of_true unnamed rfl
  | duplicate key => exact iff_of_false (fun prompts => prompts.1.1 unnamed) nofun
  | invalid key address => exact iff_of_false (fun astray => astray.1.1 unnamed) nofun
  | shared address =>
    cases address with
    | none => exact iff_of_false nofun nofun
    | some address => exact iff_of_false (fun prompts => prompts.1.1 unnamed) nofun
  | zero field => exact iff_of_false (fun hasty => hasty.1 unnamed) nofun
  | level | metrics => exact iff_of_false nofun nofun

theorem heard_frameViolations (earlier : List FrameEntry) (f : FrameEntry) (x : Complaint) :
    heard (frameViolations earlier f) x = if f.Prompts earlier x then 1 else 0 := by
  unfold frameViolations
  by_cases unnamed : f.name = ""
  · rw [if_pos unnamed]
    simp only [FrameEntry.prompts_of_unnamed unnamed, eq_comm (b := Complaint.unnamed)]
    simp [heard, ValidationError.complaint, List.count_singleton]
  · rw [if_neg unnamed, heard_append, heard_append, heard_if, heard_if, heard_addressViolations unnamed]
    cases x with
    | duplicate key =>
      have same : f.Prompts earlier (.duplicate key) ↔ (∃ g ∈ earlier, g.HasKey f.id.key) ∧ f.id.key = key := by
        rw [FrameEntry.Prompts, FrameEntry.hasKey_iff unnamed]
        constructor
        · rintro ⟨rfl, taken⟩
          exact ⟨taken, rfl⟩
        · rintro ⟨taken, rfl⟩
          exact ⟨rfl, taken⟩
      simp [same, ValidationError.complaint]
    | zero field =>
      have same : f.Prompts earlier (.zero field) ↔ f.requestTimeoutSeconds = 0 ∧ f.timeoutField = field :=
        ⟨fun hasty => ⟨hasty.2.2, hasty.2.1⟩, fun ⟨timeout, told⟩ => ⟨unnamed, told, timeout⟩⟩
      simp [same, ValidationError.complaint, FrameEntry.timeoutField]
    | _ => simp [FrameEntry.Prompts, ValidationError.complaint, unnamed]

theorem heard_framesViolations (frames : List FrameEntry) (x : Complaint) :
    heard (framesViolations [] frames) x = tally frames x := by
  -- The frame that was compared with all others is taken off first.
  induction frames using List.reverseRecOn with
  | nil => cases x with
    | shared address => cases address <;> rfl
    | _ => rfl
  | append_singleton frames f ih =>
    rw [framesViolations_concat, heard_append, ih, heard_frameViolations, tally_concat]

theorem tally_perm (permuted : frames.Perm frames') (x : Complaint) : tally frames x = tally frames' x := by
  cases x with
  | duplicate key => exact congrArg (· - 1) (permuted.countP_eq _)
  | shared address =>
    cases address with
    | none => rfl
    | some address => exact congrArg (· - 1) (permuted.countP_eq _)
  | level | metrics => rfl
  | _ => exact permuted.countP_eq _

theorem validated_eq_ok_iff [Log.Patterns] {c : Config} {errors : List ValidationError}
    (told : c.errors? = some errors) :
    validated c = .ok c ↔ errors = [] := by
  unfold validated
  rw [told]
  cases errors <;> simp

theorem Rearranged.of_complaints {errors errors' : List ValidationError}
    (same : (errors.map ValidationError.complaint).Perm (errors'.map ValidationError.complaint)) :
    Rearranged errors errors' := by
  -- Each part of the statement can be read off the complaints, so it is a function of their list.
  refine ⟨fun kind => ?_, ?_, ?_⟩
  · have read : ValidationError.kind = Complaint.kind ∘ ValidationError.complaint := by
      funext e
      cases e <;> rfl
    rw [read, ← List.map_map, ← List.map_map]
    exact (same.map _).count_eq kind
  · have read : Option.guard ValidationError.lasting = Complaint.lasting? ∘ ValidationError.complaint := by
      funext e
      cases e <;> rfl
    rw [← List.filterMap_eq_filter, read, ← List.filterMap_map, ← List.filterMap_map]
    exact same.filterMap _
  · have read : ValidationError.sharedAt? = Complaint.sharedAt? ∘ ValidationError.complaint := by
      funext e
      cases e <;> rfl
    rw [read, ← List.filterMap_map, ← List.filterMap_map]
    exact same.filterMap _

theorem heard_violations [Log.Patterns] (c : Config) (x : Complaint) :
    heard (violations c) x = heard (violations { c with frames := [] }) x + tally c.frames x := by
  rw [← heard_framesViolations, ← heard_append]
  simp [violations, framesViolations]

/-- Frames in another order give the same errors, told of other frames, and are accepted as well. -/
theorem order_irrelevant [Log.Patterns] (c : Config) (whole : Log.Filter.parse c.logging.level ≠ .error .torn)
    (frames : List FrameEntry) (permuted : frames.Perm c.frames) :
    ∃ errors errors', c.errors? = some errors ∧ { c with frames }.errors? = some errors' ∧
      (errors = [] ↔ errors' = []) ∧
      (validated c = .ok c ↔ validated { c with frames } = .ok { c with frames }) ∧
      Rearranged errors errors' := by
  have same : ((violations c).map ValidationError.complaint).Perm
      ((violations { c with frames }).map ValidationError.complaint) := by
    rw [List.perm_iff_count]
    intro x
    have moved := tally_perm permuted x
    exact (heard_violations c x).trans ((heard_violations { c with frames } x).trans (by rw [moved])).symm
  have errors := errors?_eq_violations whole
  have errors' : { c with frames }.errors? = some (violations { c with frames }) := errors?_eq_violations whole
  have none : violations c = [] ↔ violations { c with frames } = [] := by
    have length := same.length_eq
    rw [List.length_map, List.length_map] at length
    rw [← List.length_eq_zero_iff, ← List.length_eq_zero_iff, length]
  refine ⟨_, _, errors, errors', none, ?_, .of_complaints same⟩
  rw [validated_eq_ok_iff errors, validated_eq_ok_iff errors', none]

/-- The errors of `troubledConfig` with its frames turned round. Now another of two frames is blamed for
their key, and for an address that it spells in another way. -/
def turnedTroubles : List ValidationError :=
  [.zeroValue "lifecycle.shutdown_timeout_secs", .logLevel "frame_host=loud", .metricsAddress "nowhere",
    .invalidAddress "web" "localhost:80", .emptyName 1, .zeroValue "frames.api_v2.request_timeout_secs",
    .duplicateFrame "api_v2", .sharedAddress "[::1]:80", .emptyName 4]

theorem order_irrelevant_turnedRound :
    Log.Filter.parse troubledConfig.logging.level ≠ .error .torn ∧
      troubledConfig.frames.reverse.Perm troubledConfig.frames ∧ troubledConfig.errors? = some troubles ∧
      { troubledConfig with frames := troubledConfig.frames.reverse }.errors? = some turnedTroubles ∧
      Rearranged troubles turnedTroubles := by
  have whole : Log.Filter.parse troubledConfig.logging.level ≠ .error .torn := by decide
  have told : troubledConfig.errors? = some troubles := by decide
  have turned : { troubledConfig with frames := troubledConfig.frames.reverse }.errors? =
      some turnedTroubles := by decide
  have permuted := List.reverse_perm troubledConfig.frames
  obtain ⟨errors, errors', first, second, -, -, same⟩ := order_irrelevant troubledConfig whole _ permuted
  cases told.symm.trans first
  cases turned.symm.trans second
  exact ⟨whole, permuted, told, turned, same⟩

end

end FrameHost.Config
