import Mathlib.Data.List.Forall2
import FrameHost.Config.Loading
import FrameHost.Config.Writing
import FrameHost.Proofs.Config.Slots
import FrameHost.Proofs.Message

/-! What is written of a configuration is read as the same configuration.

Each slot is filled from the entry that was written for it, whatever the order of the entries; so no order of
the members of an object and no default can change what comes back. -/

set_option autoImplicit false

namespace FrameHost.Config

variable {α β : Type} {dialect : Dialect}

/-- Entries that were written for slots one by one: each is read as what a value holds in its slot, whatever the
order within the entry. -/
def Writes (dialect : Dialect) (t : α) : List (String × Document) → List (Slot α) → Prop :=
  List.Forall₂ fun entry slot =>
    entry.1 = slot.key ∧ ∀ d, entry.2.Alike d → slot.value dialect d = .ok (slot.get t)

namespace Writes

variable {t : α} {entries : List (String × Document)} {slots : List (Slot α)}

theorem keys (writes : Writes dialect t entries slots) : entries.map Prod.fst = slots.map Slot.key := by
  induction writes with
  | nil => rfl
  | cons first _ ih => rw [List.map_cons, List.map_cons, first.1, ih]

theorem exists_entry (writes : Writes dialect t entries slots) {slot : Slot α} (member : slot ∈ slots) :
    ∃ x, (slot.key, x) ∈ entries ∧ ∀ d, x.Alike d → slot.value dialect d = .ok (slot.get t) := by
  induction writes with
  | nil => cases member
  | @cons entry _ _ _ first _ ih =>
    rcases List.mem_cons.mp member with rfl | later
    · exact ⟨entry.2, List.mem_cons.mpr (.inl (Prod.ext first.1.symm rfl)), first.2⟩
    · obtain ⟨x, there, filled⟩ := ih later
      exact ⟨x, List.mem_cons_of_mem _ there, filled⟩

theorem exists_slot (writes : Writes dialect t entries slots) {entry : String × Document} (member : entry ∈ entries) :
    ∃ slot ∈ slots, entry.1 = slot.key ∧ slot.value dialect entry.2 = .ok (slot.get t) := by
  induction writes with
  | nil => cases member
  | @cons _ slot _ _ first _ ih =>
    rcases List.mem_cons.mp member with rfl | later
    · exact ⟨slot, List.mem_cons_self, first.1, first.2 _ (.same _)⟩
    · obtain ⟨slot, there, filled⟩ := ih later
      exact ⟨slot, List.mem_cons_of_mem _ there, filled⟩

end Writes

/-- A document that was written for the slots of a group, from a value that collects them. -/
def Shows (dialect : Dialect) (d : Document) (t : α) (slots : List (Slot α)) : Prop :=
  ∃ entries, d = .table entries ∧ Writes dialect t entries slots

theorem Shows.read {shape : Shape α β} {slots : List (Slot α)} {d d' : Document} {t : α} {v : β}
    (shows : Shows dialect d t slots) (slotted : shape.Slotted slots) (finished : shape.finish t = .ok v)
    (alike : d.Alike d') : shape.read dialect d' = .ok v := by
  obtain ⟨entries, rfl, writes⟩ := shows
  have distinct : (entries.map Prod.fst).Nodup := by
    rw [writes.keys]
    exact slotted.keys
  obtain ⟨entries', rfl, distinct', counterpart⟩ := alike.of_table distinct
  refine Shape.readTable_eq_ok_iff.mpr ⟨t, (slotted.foldlM_eq_ok_iff distinct').mpr fun slot member => ?_, finished⟩
  obtain ⟨x, there, filled⟩ := writes.exists_entry member
  obtain ⟨y, there', alike⟩ := counterpart slot.key x there
  exact (slot.reads_of_mem distinct' there').mpr (filled y alike)

/-! Values without parts are like themselves only. -/

theorem readCount_written (n : UInt64) {d : Document} (alike : (countDocument n).Alike d) : readCount d = .ok n := by
  cases alike
  have fits : 0 ≤ (n.toNat : Int) ∧ (n.toNat : Int) < UInt64.size := by
    have small : n.toNat < UInt64.size := n.toNat_lt
    omega
  simp only [readCount, countDocument]
  rw [if_pos fits, Int.toNat_natCast, UInt64.ofNat_toNat]

theorem readText_written {expected : String} (s : String) {d : Document} (alike : (Document.text s).Alike d) :
    readText expected d = .ok s := by
  cases alike
  rfl

theorem readNeeded_written (s : String) {d : Document} (alike : (Document.text s).Alike d) :
    readNeeded d = .ok (some s) := by
  cases alike
  rfl

theorem readBoolean_written (b : Bool) {d : Document} (alike : (Document.boolean b).Alike d) :
    readBoolean d = .ok b := by
  cases alike
  rfl

theorem readOptional_written {expected : String} (s : Option String) {d : Document}
    (alike : (optionalDocument s).Alike d) : readOptional (readText expected) d = .ok s := by
  cases s <;> cases alike <;> rfl

theorem readFormat_written (f : LogFormat) {d : Document} (alike : (Document.text f.name).Alike d) :
    readFormat dialect d = .ok f := by
  cases alike
  cases f <;> rfl

/-! The sections, the frames and the whole. -/

theorem shows_lifecycle (l : Lifecycle) : Shows dialect l.toDocument l Lifecycle.slots :=
  ⟨_, rfl, .cons ⟨rfl, fun _ => readCount_written l.startIntervalMillis⟩ <|
    .cons ⟨rfl, fun _ => readCount_written l.shutdownTimeoutSeconds⟩ .nil⟩

theorem shows_logging (l : Logging) : Shows dialect l.toDocument l Logging.slots :=
  ⟨_, rfl, .cons ⟨rfl, fun _ => readText_written l.level⟩ <|
    .cons ⟨rfl, fun _ => readFormat_written l.format⟩ <|
    .cons ⟨rfl, fun _ => readOptional_written l.file⟩ .nil⟩

theorem shows_observability (o : Observability) : Shows dialect o.toDocument o Observability.slots :=
  ⟨_, rfl, .cons ⟨rfl, fun _ => readBoolean_written o.metricsEnabled⟩ <|
    .cons ⟨rfl, fun _ => readText_written o.metricsAddress⟩ .nil⟩

def FrameEntry.filled (f : FrameEntry) : PartialFrame where
  name := some f.name
  version := f.version
  bindAddress := some f.bindAddress
  requestTimeoutSeconds := f.requestTimeoutSeconds

theorem shows_frame (f : FrameEntry) : Shows dialect f.toDocument f.filled PartialFrame.slots :=
  ⟨_, rfl, .cons ⟨rfl, fun _ => readNeeded_written f.name⟩ <|
    .cons ⟨rfl, fun _ => readOptional_written f.version⟩ <|
    .cons ⟨rfl, fun _ => readNeeded_written f.bindAddress⟩ <|
    .cons ⟨rfl, fun _ => readCount_written f.requestTimeoutSeconds⟩ .nil⟩

theorem read_lifecycle (l : Lifecycle) {d : Document} (alike : l.toDocument.Alike d) :
    lifecycleShape.read dialect d = .ok l :=
  (shows_lifecycle l).read lifecycle_slotted rfl alike

theorem read_logging (l : Logging) {d : Document} (alike : l.toDocument.Alike d) :
    loggingShape.read dialect d = .ok l :=
  (shows_logging l).read logging_slotted rfl alike

theorem read_observability (o : Observability) {d : Document} (alike : o.toDocument.Alike d) :
    observabilityShape.read dialect d = .ok o :=
  (shows_observability o).read observability_slotted rfl alike

theorem read_frame (f : FrameEntry) {d : Document} (alike : f.toDocument.Alike d) :
    frameShape.read dialect d = .ok f :=
  (shows_frame f).read frame_slotted rfl alike

theorem mapM_written {γ : Type} {read : Document → Except Fault γ} {write : γ → Document}
    (back : ∀ x d, (write x).Alike d → read d = .ok x) {xs : List γ} {items : List Document}
    (alike : List.Forall₂ Document.Alike (xs.map write) items) (start : Nat) :
    (items.zipIdx start).mapM (fun (item, i) => within (.item i) (read item)) = .ok xs := by
  induction xs generalizing items start with
  | nil =>
    cases alike
    rfl
  | cons x xs ih =>
    obtain ⟨d, items, first, rest, rfl⟩ := List.forall₂_cons_left_iff.mp alike
    simp only [List.zipIdx_cons, List.mapM_cons, back x d first, ih rest]
    rfl

theorem read_frames (frames : List FrameEntry) {d : Document}
    (alike : Document.Alike (.list (frames.map FrameEntry.toDocument)) d) :
    readItems (frameShape.read dialect) d = .ok frames := by
  obtain ⟨items, rfl, all⟩ := alike.of_list
  exact mapM_written (fun f _ => read_frame f) all 0

theorem shows_root (c : Config) : Shows dialect c.toDocument c slots :=
  ⟨_, rfl, .cons ⟨rfl, fun _ => read_lifecycle c.lifecycle⟩ <|
    .cons ⟨rfl, fun _ => read_logging c.logging⟩ <|
    .cons ⟨rfl, fun _ => read_observability c.observability⟩ <|
    .cons ⟨rfl, fun _ => read_frames c.frames⟩ .nil⟩

/-- A configuration is read from what was written of it, in whichever order the entries stand. -/
theorem read_alike (c : Config) {d : Document} (alike : c.toDocument.Alike d) : read dialect d = .ok c :=
  (shows_root c).read root_slotted rfl alike

/-! What is written can be sent as a message. -/

section
variable {depth : Nat}

theorem plain_count (n : UInt64) : Message.Plain depth (countDocument n) := .count n.toNat_lt

theorem plain_optional (s : Option String) : Message.Plain depth (optionalDocument s) := by
  cases s with
  | none => exact .null
  | some s => exact .text s

theorem plain_lifecycle (l : Lifecycle) : Message.Plain (depth + 1) l.toDocument := by
  refine .table lifecycle_slotted.keys ?_
  simp only [List.forall_mem_cons]
  exact ⟨plain_count _, plain_count _, nofun⟩

theorem plain_logging (l : Logging) : Message.Plain (depth + 1) l.toDocument := by
  refine .table logging_slotted.keys ?_
  simp only [List.forall_mem_cons]
  exact ⟨.text _, .text _, plain_optional _, nofun⟩

theorem plain_observability (o : Observability) : Message.Plain (depth + 1) o.toDocument := by
  refine .table observability_slotted.keys ?_
  simp only [List.forall_mem_cons]
  exact ⟨.boolean _, .text _, nofun⟩

theorem plain_frame (f : FrameEntry) : Message.Plain (depth + 1) f.toDocument := by
  refine .table frame_slotted.keys ?_
  simp only [List.forall_mem_cons]
  exact ⟨.text _, plain_optional _, .text _, plain_count _, nofun⟩

theorem plain_toDocument (c : Config) : Message.Plain (depth + 3) c.toDocument := by
  refine .table root_slotted.keys ?_
  simp only [List.forall_mem_cons]
  exact ⟨plain_lifecycle _, plain_logging _, plain_observability _,
    .list (List.forall_mem_map.mpr fun f _ => plain_frame f), nofun⟩

end

/-- What a configuration was read as, beside what it was: the same value, so the same answer to whether it is
valid, the same frames under the same identities, and the same times. -/
structure Returns [Log.Patterns] (c c' : Config) : Prop where
  value : c' = c
  answer : c'.errors? = c.errors?
  identities : c'.frames.map FrameEntry.id = c.frames.map FrameEntry.id
  requestTimeouts : c'.frames.map FrameEntry.requestTimeout = c.frames.map FrameEntry.requestTimeout
  startInterval : c'.lifecycle.startInterval = c.lifecycle.startInterval
  shutdownTimeout : c'.lifecycle.shutdownTimeout = c.lifecycle.shutdownTimeout

theorem Returns.refl [Log.Patterns] (c : Config) : c.Returns c := ⟨rfl, rfl, rfl, rfl, rfl, rfl⟩

/-- A configuration that is written and read again: sent as a message, or handed on as a document whose tables
do not keep the order of their entries. -/
structure Survives [Log.Patterns] (c : Config) : Prop where
  message : ∃ s d c', Message.write? c.toDocument = some s ∧ Message.read? s = some d ∧ read .json d = .ok c' ∧
    ofDocument d = validated c ∧ c.Returns c'
  document : ∀ d, c.toDocument.Alike d → ∃ c', read .json d = .ok c' ∧ ofDocument d = validated c ∧ c.Returns c'

theorem ofDocument_of_read [Log.Patterns] {c : Config} {d : Document}
    (fine : read .json d = .ok c) : ofDocument d = validated c := by
  unfold ofDocument
  rw [fine]

/-- Every configuration is read from what was written of it. -/
theorem survives_writing [Log.Patterns] (c : Config) : c.Survives where
  message := by
    obtain ⟨s, d, written, sent, alike⟩ := Message.exists_read?_write? (d := c.toDocument) (plain_toDocument c)
    have fine : read .json d = .ok c := read_alike c alike
    exact ⟨s, d, c, written, sent, fine, ofDocument_of_read fine, .refl c⟩
  document d alike := by
    have fine : read .json d = .ok c := read_alike c alike
    exact ⟨c, fine, ofDocument_of_read fine, .refl c⟩

end FrameHost.Config
