import Mathlib.Data.List.Nodup
import FrameHost.Config.Reading

/-! What is read from a table, field by field.

Each field of a group has a slot of the collected value to itself, and reads it from the value of its entry
alone. So entries of different fields do not disturb one another, an entry that no field has means nothing,
and a slot that no entry is about stays as it was. -/

set_option autoImplicit false

namespace FrameHost.Config

variable {α β : Type}

theorem lookup_of_mem {γ : Type} {entries : List (String × γ)} {key : String} {x : γ}
    (distinct : (entries.map Prod.fst).Nodup) (member : (key, x) ∈ entries) : entries.lookup key = some x := by
  induction entries with
  | nil => cases member
  | cons entry rest ih =>
    obtain ⟨fresh, distinct⟩ := List.nodup_cons.mp distinct
    rcases List.mem_cons.mp member with rfl | later
    · exact List.lookup_cons_self
    · have other : (key == entry.1) = false := by
        rw [beq_eq_false_iff_ne]
        rintro rfl
        exact fresh (List.mem_map.mpr ⟨_, later, rfl⟩)
      rw [List.lookup_cons, other]
      exact ih distinct later

theorem lookup_eq_none_iff_notMem {γ : Type} {entries : List (String × γ)} {key : String} :
    entries.lookup key = none ↔ key ∉ entries.map Prod.fst := by
  rw [List.lookup_eq_none_iff, List.mem_map, not_exists]
  refine forall_congr' fun entry => ?_
  rw [bne_iff_ne, not_and, ne_comm]

section
variable {ε γ δ : Type} {result : Except ε γ}

theorem bind_eq_ok_iff {next : γ → Except ε δ} {y : δ} :
    (result >>= next) = .ok y ↔ ∃ x, result = .ok x ∧ next x = .ok y := by
  cases result with
  | error e => exact iff_of_false nofun nofun
  | ok x => exact ⟨fun same => ⟨x, rfl, same⟩, by rintro ⟨_, ⟨⟩, same⟩; exact same⟩

theorem map_eq_ok_iff {f : γ → δ} {y : δ} : result.map f = .ok y ↔ ∃ x, result = .ok x ∧ f x = y := by
  cases result <;> simp [Except.map]

end

theorem within_eq_ok_iff {γ : Type} {step : Step} {result : Except Fault γ} {x : γ} :
    within step result = .ok x ↔ result = .ok x := by
  cases result <;> simp [within, Except.mapError]

/-- A part of a collected value, and how the field with a key reads it. -/
structure Slot (α : Type) where
  key : String
  Value : Type
  value : Dialect → Document → Except Fault Value
  get : α → Value
  set : Value → α → α
  get_set : ∀ x s, get (set x s) = x

namespace Slot

def field (slot : Slot α) : String × (Dialect → Document → α → Except Fault α) :=
  (slot.key, fun dialect d s => (slot.value dialect d).map fun x => slot.set x s)

/-- What the entries of a table leave in a slot, when each has a key of its own. -/
def Reads (slot : Slot α) (dialect : Dialect) (entries : List (String × Document)) (s t : α) : Prop :=
  match entries.lookup slot.key with
  | none => slot.get t = slot.get s
  | some d => slot.value dialect d = .ok (slot.get t)

section
variable {slot : Slot α} {dialect : Dialect} {entries : List (String × Document)} {key : String} {d : Document}
  {s t : α}

theorem reads_of_absent (slot : Slot α) (absent : slot.key ∉ entries.map Prod.fst) :
    slot.Reads dialect entries s t ↔ slot.get t = slot.get s := by
  simp only [Reads, lookup_eq_none_iff_notMem.mpr absent]

theorem reads_of_mem (slot : Slot α) (distinct : (entries.map Prod.fst).Nodup) (member : (slot.key, d) ∈ entries) :
    slot.Reads dialect entries s t ↔ slot.value dialect d = .ok (slot.get t) := by
  simp only [Reads, lookup_of_mem distinct member]

theorem reads_cons_self (slot : Slot α) :
    slot.Reads dialect ((slot.key, d) :: entries) s t ↔ slot.value dialect d = .ok (slot.get t) := by
  simp only [Reads, List.lookup_cons_self]

theorem reads_cons_of_ne (slot : Slot α) (differ : slot.key ≠ key) :
    slot.Reads dialect ((key, d) :: entries) s t ↔ slot.Reads dialect entries s t := by
  have other : (slot.key == key) = false := beq_eq_false_iff_ne.mpr differ
  simp only [Reads, List.lookup_cons, other]

end

end Slot

/-- The fields of a group read the slots of a list, of which none holds a part of another, and which
together are the whole collected value. -/
structure Shape.Slotted (shape : Shape α β) (slots : List (Slot α)) : Prop where
  fields : shape.fields = slots.map Slot.field
  keys : (slots.map Slot.key).Nodup
  apart : ∀ a ∈ slots, ∀ b ∈ slots, a.key ≠ b.key → ∀ x s, b.get (a.set x s) = b.get s
  whole : ∀ s t, (∀ slot ∈ slots, slot.get s = slot.get t) → s = t

theorem Shape.readTable_eq_ok_iff {shape : Shape α β} {dialect : Dialect} {entries : List (String × Document)}
    {v : β} : shape.readTable dialect entries = .ok v ↔
      ∃ t, entries.foldlM (shape.readEntry dialect) shape.start = .ok t ∧ shape.finish t = .ok v := by
  unfold readTable
  rw [bind_eq_ok_iff]
  refine exists_congr fun t => and_congr_right fun _ => ?_
  cases shape.finish t with
  | ok value => simp
  | error i => exact iff_of_false nofun nofun

namespace Shape.Slotted

variable {shape : Shape α β} {slots : List (Slot α)} {dialect : Dialect}
  {entries : List (String × Document)} {key : String} {d : Document} {s t : α} {slot : Slot α}

theorem fields_keys (slotted : shape.Slotted slots) : shape.fields.map Prod.fst = slots.map Slot.key := by
  rw [slotted.fields, List.map_map]
  rfl

theorem lookup_field (slotted : shape.Slotted slots) (member : slot ∈ slots) :
    shape.fields.lookup slot.key = some slot.field.2 := by
  apply lookup_of_mem
  · rw [slotted.fields_keys]
    exact slotted.keys
  · rw [slotted.fields]
    exact List.mem_map_of_mem member

theorem eq_of_key (slotted : shape.Slotted slots) {a b : Slot α} (here : a ∈ slots) (there : b ∈ slots)
    (same : a.key = b.key) : a = b :=
  List.inj_on_of_nodup_map slotted.keys here there same

theorem readEntry_of_mem (slotted : shape.Slotted slots) (member : slot ∈ slots) (dialect : Dialect)
    (d : Document) (s : α) : shape.readEntry dialect s (slot.key, d) =
      within (.field slot.key) ((slot.value dialect d).map fun x => slot.set x s) := by
  simp only [readEntry, slotted.lookup_field member]
  rfl

/-- An entry means nothing, or it is read into the slot of its key. -/
theorem readEntry_cases (slotted : shape.Slotted slots) (dialect : Dialect) (key : String) (d : Document) :
    ((∀ slot ∈ slots, slot.key ≠ key) ∧ ∀ s, shape.readEntry dialect s (key, d) = .ok s) ∨
    ∃ slot ∈ slots, slot.key = key ∧ ∀ s, shape.readEntry dialect s (key, d) =
      within (.field key) ((slot.value dialect d).map fun x => slot.set x s) := by
  by_cases known : ∃ slot ∈ slots, slot.key = key
  · obtain ⟨slot, member, rfl⟩ := known
    exact .inr ⟨slot, member, rfl, slotted.readEntry_of_mem member dialect d⟩
  · have strange : ∀ slot ∈ slots, slot.key ≠ key := fun slot member same => known ⟨slot, member, same⟩
    have unknown : shape.fields.lookup key = none := by
      rw [lookup_eq_none_iff_notMem, slotted.fields_keys]
      simpa using strange
    exact .inl ⟨strange, fun s => by simp only [readEntry, unknown]⟩

theorem readEntry_congr (slotted : shape.Slotted slots) (member : slot ∈ slots) {d d' : Document}
    (same : slot.value dialect d = slot.value dialect d') (s : α) :
    shape.readEntry dialect s (slot.key, d) = shape.readEntry dialect s (slot.key, d') := by
  rw [slotted.readEntry_of_mem member, slotted.readEntry_of_mem member, same]

theorem readEntry_eq_ok_iff (slotted : shape.Slotted slots) (member : slot ∈ slots) :
    shape.readEntry dialect s (slot.key, d) = .ok t ↔ ∃ x, slot.value dialect d = .ok x ∧ slot.set x s = t := by
  rw [slotted.readEntry_of_mem member, within_eq_ok_iff, map_eq_ok_iff]

theorem set_get (slotted : shape.Slotted slots) (member : slot ∈ slots) (s : α) : slot.set (slot.get s) s = s := by
  apply slotted.whole
  intro other there
  by_cases same : slot.key = other.key
  · cases slotted.eq_of_key member there same
    exact slot.get_set _ s
  · exact slotted.apart slot member other there same _ s

theorem set_comm (slotted : shape.Slotted slots) {a b : Slot α} (here : a ∈ slots) (there : b ∈ slots)
    (differ : a.key ≠ b.key) (x : a.Value) (y : b.Value) (s : α) : a.set x (b.set y s) = b.set y (a.set x s) := by
  apply slotted.whole
  intro slot member
  by_cases first : a.key = slot.key
  · cases slotted.eq_of_key here member first
    rw [a.get_set, slotted.apart b there a here differ.symm, a.get_set]
  · rw [slotted.apart a here slot member first]
    by_cases second : b.key = slot.key
    · cases slotted.eq_of_key there member second
      rw [b.get_set, b.get_set]
    · rw [slotted.apart b there slot member second, slotted.apart b there slot member second,
        slotted.apart a here slot member first]

/-- Entries with other keys are read the same whatever a slot holds, and leave in it what was there. -/
theorem foldlM_set (slotted : shape.Slotted slots) (member : slot ∈ slots)
    (absent : slot.key ∉ entries.map Prod.fst) (x : slot.Value) (s : α) :
    entries.foldlM (shape.readEntry dialect) (slot.set x s) =
      (entries.foldlM (shape.readEntry dialect) s).map fun t => slot.set x t := by
  induction entries generalizing s with
  | nil => rfl
  | cons entry rest ih =>
    obtain ⟨key, d⟩ := entry
    rw [List.map_cons, List.mem_cons, not_or] at absent
    rw [List.foldlM_cons, List.foldlM_cons]
    rcases slotted.readEntry_cases dialect key d with ⟨-, read⟩ | ⟨other, there, rfl, read⟩
    · rw [read, read]
      exact ih absent.2 s
    · rw [read, read]
      cases other.value dialect d with
      | error fault => rfl
      | ok y =>
        have turned := slotted.set_comm there member (Ne.symm absent.1) y x s
        change rest.foldlM _ (other.set y (slot.set x s)) = _
        rw [turned]
        exact ih absent.2 _

theorem get_of_absent (slotted : shape.Slotted slots) (member : slot ∈ slots)
    (absent : slot.key ∉ entries.map Prod.fst)
    (read : entries.foldlM (shape.readEntry dialect) s = .ok t) : slot.get t = slot.get s := by
  rw [← slotted.set_get member s, slotted.foldlM_set member absent, map_eq_ok_iff] at read
  obtain ⟨u, -, rfl⟩ := read
  exact slot.get_set _ u

theorem readEntry_idle (slotted : shape.Slotted slots) (absent : key ∉ entries.map Prod.fst)
    (idle : shape.readEntry dialect s (key, d) = .ok s)
    (read : entries.foldlM (shape.readEntry dialect) s = .ok t) : shape.readEntry dialect t (key, d) = .ok t := by
  rcases slotted.readEntry_cases dialect key d with ⟨-, strange⟩ | ⟨slot, member, rfl, -⟩
  · exact strange t
  · obtain ⟨x, given, kept⟩ := (slotted.readEntry_eq_ok_iff member).mp idle
    have held : x = slot.get t := by rw [slotted.get_of_absent member absent read, ← slot.get_set x s, kept]
    refine (slotted.readEntry_eq_ok_iff member).mpr ⟨x, given, ?_⟩
    rw [held]
    exact slotted.set_get member t

theorem foldlM_remove (slotted : shape.Slotted slots) (member : slot ∈ slots)
    {before after : List (String × Document)} (absent : slot.key ∉ (before ++ after).map Prod.fst)
    (read : (before ++ (slot.key, d) :: after).foldlM (shape.readEntry dialect) s = .ok t) :
    ∃ t' x, (before ++ after).foldlM (shape.readEntry dialect) s = .ok t' ∧ slot.get t' = slot.get s ∧
      t = slot.set x t' := by
  rw [List.foldlM_append, bind_eq_ok_iff] at read
  obtain ⟨u, front, rest⟩ := read
  rw [List.foldlM_cons, bind_eq_ok_iff] at rest
  obtain ⟨v, entry, rest⟩ := rest
  obtain ⟨x, -, rfl⟩ := (slotted.readEntry_eq_ok_iff member).mp entry
  have apart : slot.key ∉ after.map Prod.fst := fun there => absent (by simp [there])
  rw [slotted.foldlM_set member apart, map_eq_ok_iff] at rest
  obtain ⟨t', back, rfl⟩ := rest
  have all : (before ++ after).foldlM (shape.readEntry dialect) s = .ok t' := by
    rw [List.foldlM_append, bind_eq_ok_iff]
    exact ⟨u, front, back⟩
  exact ⟨t', x, all, slotted.get_of_absent member absent all, rfl⟩

/-- Reading the entries of a table, each with a key of its own, is reading each slot by itself. -/
theorem foldlM_eq_ok_iff (slotted : shape.Slotted slots) (distinct : (entries.map Prod.fst).Nodup) :
    entries.foldlM (shape.readEntry dialect) s = .ok t ↔ ∀ slot ∈ slots, slot.Reads dialect entries s t := by
  -- The start is generalized: what the first entry sets is what the rest starts from.
  induction entries generalizing s with
  | nil =>
    constructor
    · rintro ⟨⟩ slot -
      exact rfl
    · intro kept
      exact congrArg Except.ok (slotted.whole s t fun slot member => (kept slot member).symm)
  | cons entry rest ih =>
    obtain ⟨key, d⟩ := entry
    obtain ⟨fresh, later⟩ := List.nodup_cons.mp distinct
    rw [List.foldlM_cons]
    rcases slotted.readEntry_cases dialect key d with ⟨strange, read⟩ | ⟨slot, member, rfl, read⟩
    · rw [read]
      exact (ih later).trans (forall₂_congr fun slot member => (slot.reads_cons_of_ne (strange slot member)).symm)
    · rw [read]
      cases own : slot.value dialect d with
      | error fault =>
        refine iff_of_false nofun fun all => ?_
        have mine := (slot.reads_cons_self).mp (all slot member)
        cases own.symm.trans mine
      | ok x =>
        refine (ih (s := slot.set x s) later).trans (forall₂_congr fun other there => ?_)
        by_cases same : slot.key = other.key
        · cases slotted.eq_of_key member there same
          rw [slot.reads_cons_self, slot.reads_of_absent fresh, own, slot.get_set, Except.ok.injEq, eq_comm]
        · rw [other.reads_cons_of_ne (Ne.symm same)]
          unfold Slot.Reads
          rw [slotted.apart slot member other there same]

end Shape.Slotted

/-! The slots of the groups of a configuration. -/

namespace Lifecycle

def startIntervalSlot : Slot Lifecycle where
  key := "start_interval_ms"
  Value := UInt64
  value _ := readCount
  get := (·.startIntervalMillis)
  set startIntervalMillis l := { l with startIntervalMillis }
  get_set _ _ := rfl

def shutdownTimeoutSlot : Slot Lifecycle where
  key := "shutdown_timeout_secs"
  Value := UInt64
  value _ := readCount
  get := (·.shutdownTimeoutSeconds)
  set shutdownTimeoutSeconds l := { l with shutdownTimeoutSeconds }
  get_set _ _ := rfl

def slots : List (Slot Lifecycle) := [startIntervalSlot, shutdownTimeoutSlot]

end Lifecycle

namespace Logging

def levelSlot : Slot Logging where
  key := "level"
  Value := String
  value _ := readText "a string"
  get := (·.level)
  set level l := { l with level }
  get_set _ _ := rfl

def formatSlot : Slot Logging where
  key := "format"
  Value := LogFormat
  value := readFormat
  get := (·.format)
  set format l := { l with format }
  get_set _ _ := rfl

def fileSlot : Slot Logging where
  key := "file"
  Value := Option String
  value _ := readOptional (readText "path string")
  get := (·.file)
  set file l := { l with file }
  get_set _ _ := rfl

def slots : List (Slot Logging) := [levelSlot, formatSlot, fileSlot]

end Logging

namespace Observability

def metricsEnabledSlot : Slot Observability where
  key := "metrics_enabled"
  Value := Bool
  value _ := readBoolean
  get := (·.metricsEnabled)
  set metricsEnabled o := { o with metricsEnabled }
  get_set _ _ := rfl

def metricsAddressSlot : Slot Observability where
  key := "metrics_address"
  Value := String
  value _ := readText "a string"
  get := (·.metricsAddress)
  set metricsAddress o := { o with metricsAddress }
  get_set _ _ := rfl

def slots : List (Slot Observability) := [metricsEnabledSlot, metricsAddressSlot]

end Observability

def readNeeded (d : Document) : Except Fault (Option String) := (readText "a string" d).map some

namespace PartialFrame

def nameSlot : Slot PartialFrame where
  key := "name"
  Value := Option String
  value _ := readNeeded
  get := (·.name)
  set name f := { f with name }
  get_set _ _ := rfl

def versionSlot : Slot PartialFrame where
  key := "version"
  Value := Option String
  value _ := readOptional (readText "a string")
  get := (·.version)
  set version f := { f with version }
  get_set _ _ := rfl

def bindAddressSlot : Slot PartialFrame where
  key := "bind_address"
  Value := Option String
  value _ := readNeeded
  get := (·.bindAddress)
  set bindAddress f := { f with bindAddress }
  get_set _ _ := rfl

def requestTimeoutSlot : Slot PartialFrame where
  key := "request_timeout_secs"
  Value := UInt64
  value _ := readCount
  get := (·.requestTimeoutSeconds)
  set requestTimeoutSeconds f := { f with requestTimeoutSeconds }
  get_set _ _ := rfl

def slots : List (Slot PartialFrame) := [nameSlot, versionSlot, bindAddressSlot, requestTimeoutSlot]

end PartialFrame

def lifecycleSlot : Slot Config where
  key := "lifecycle"
  Value := Lifecycle
  value := lifecycleShape.read
  get := (·.lifecycle)
  set lifecycle c := { c with lifecycle }
  get_set _ _ := rfl

def loggingSlot : Slot Config where
  key := "logging"
  Value := Logging
  value := loggingShape.read
  get := (·.logging)
  set logging c := { c with logging }
  get_set _ _ := rfl

def observabilitySlot : Slot Config where
  key := "observability"
  Value := Observability
  value := observabilityShape.read
  get := (·.observability)
  set observability c := { c with observability }
  get_set _ _ := rfl

def framesSlot : Slot Config where
  key := "frames"
  Value := List FrameEntry
  value dialect := readItems (frameShape.read dialect)
  get := (·.frames)
  set frames c := { c with frames }
  get_set _ _ := rfl

def slots : List (Slot Config) := [lifecycleSlot, loggingSlot, observabilitySlot, framesSlot]

theorem framesSlot_mem : framesSlot ∈ slots := by simp [slots]

/-- A reader that puts what it reads into a slot, as its own lines say it. -/
theorem read_set {γ : Type} (result : Except Fault γ) (set : γ → α) :
    (do return set (← result)) = result.map set := by
  cases result <;> rfl

theorem map_readNeeded (d : Document) (set : Option String → α) :
    (readNeeded d).map set = (readText "a string" d).map fun s => set (some s) := by
  unfold readNeeded
  cases readText "a string" d <;> rfl

theorem lifecycle_slotted : lifecycleShape.Slotted Lifecycle.slots where
  fields := by
    simp only [lifecycleShape, Lifecycle.slots, Lifecycle.startIntervalSlot, Lifecycle.shutdownTimeoutSlot, Slot.field,
      read_set, List.map_cons, List.map_nil]
  keys := by decide
  apart := by simp [Lifecycle.slots, Lifecycle.startIntervalSlot, Lifecycle.shutdownTimeoutSlot]
  whole s t same := by
    simp only [Lifecycle.slots, List.forall_mem_cons] at same
    cases s
    cases t
    simp_all [Lifecycle.startIntervalSlot, Lifecycle.shutdownTimeoutSlot]

theorem logging_slotted : loggingShape.Slotted Logging.slots where
  fields := by
    simp only [loggingShape, Logging.slots, Logging.levelSlot, Logging.formatSlot, Logging.fileSlot, Slot.field,
      read_set, List.map_cons, List.map_nil]
  keys := by decide
  apart := by simp [Logging.slots, Logging.levelSlot, Logging.formatSlot, Logging.fileSlot]
  whole s t same := by
    simp only [Logging.slots, List.forall_mem_cons] at same
    cases s
    cases t
    simp_all [Logging.levelSlot, Logging.formatSlot, Logging.fileSlot]

theorem observability_slotted : observabilityShape.Slotted Observability.slots where
  fields := by
    simp only [observabilityShape, Observability.slots, Observability.metricsEnabledSlot,
      Observability.metricsAddressSlot, Slot.field, read_set, List.map_cons, List.map_nil]
  keys := by decide
  apart := by simp [Observability.slots, Observability.metricsEnabledSlot, Observability.metricsAddressSlot]
  whole s t same := by
    simp only [Observability.slots, List.forall_mem_cons] at same
    cases s
    cases t
    simp_all [Observability.metricsEnabledSlot, Observability.metricsAddressSlot]

theorem frame_slotted : frameShape.Slotted PartialFrame.slots where
  fields := by
    simp only [frameShape, PartialFrame.slots, PartialFrame.nameSlot, PartialFrame.versionSlot,
      PartialFrame.bindAddressSlot, PartialFrame.requestTimeoutSlot, Slot.field, read_set, map_readNeeded,
      List.map_cons, List.map_nil]
  keys := by decide
  apart := by
    simp [PartialFrame.slots, PartialFrame.nameSlot, PartialFrame.versionSlot, PartialFrame.bindAddressSlot,
      PartialFrame.requestTimeoutSlot]
  whole s t same := by
    simp only [PartialFrame.slots, List.forall_mem_cons] at same
    cases s
    cases t
    simp_all [PartialFrame.nameSlot, PartialFrame.versionSlot, PartialFrame.bindAddressSlot,
      PartialFrame.requestTimeoutSlot]

theorem root_slotted : shape.Slotted slots where
  fields := by
    simp only [shape, slots, lifecycleSlot, loggingSlot, observabilitySlot, framesSlot, Slot.field,
      read_set, List.map_cons, List.map_nil]
  keys := by decide
  apart := by simp [slots, lifecycleSlot, loggingSlot, observabilitySlot, framesSlot]
  whole s t same := by
    simp only [slots, List.forall_mem_cons] at same
    cases s
    cases t
    simp_all [lifecycleSlot, loggingSlot, observabilitySlot, framesSlot]

end FrameHost.Config
