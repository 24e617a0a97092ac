import Mathlib.Logic.Relation
import FrameHost.Log.Pattern
import FrameHost.Proofs.Config.RoundTrip

/-! Edits of a document that make no difference to what is read from it.

Keys that mean nothing, and fields that are given the value that stands in for them, may be added and taken
away in every table that is read. Without its name or its address no frame is read. -/

set_option autoImplicit false

namespace FrameHost.Config

variable {α β : Type} {dialect : Dialect}

/-- A value for the field with a key that is the same as none: it leaves the start as it is. -/
def Shape.Usual (shape : Shape α β) (dialect : Dialect) (key : String) (value : Document) : Prop :=
  ∃ read, shape.fields.lookup key = some read ∧ read dialect value shape.start = .ok shape.start

/-- The entries of a table, and the same with one more that says nothing. -/
inductive Shape.Grown (shape : Shape α β) (dialect : Dialect) :
    List (String × Document) → List (String × Document) → Prop where
  | unknown {before after : List (String × Document)} {key : String} {value : Document}
      (absent : key ∉ (before ++ after).map Prod.fst) (strange : key ∉ shape.fields.map Prod.fst) :
      Grown shape dialect (before ++ after) (before ++ (key, value) :: after)
  | usual {before after : List (String × Document)} {key : String} {value : Document}
      (absent : key ∉ (before ++ after).map Prod.fst) (usual : shape.Usual dialect key value) :
      Grown shape dialect (before ++ after) (before ++ (key, value) :: after)

/-- The value under a key of a configuration, and the same with one more entry that says nothing: in a section
of settings, or in one of the frames. -/
inductive GrownUnder (dialect : Dialect) : String → Document → Document → Prop where
  | lifecycle {entries entries' : List (String × Document)} (grown : lifecycleShape.Grown dialect entries entries') :
      GrownUnder dialect "lifecycle" (.table entries) (.table entries')
  | logging {entries entries' : List (String × Document)} (grown : loggingShape.Grown dialect entries entries') :
      GrownUnder dialect "logging" (.table entries) (.table entries')
  | observability {entries entries' : List (String × Document)}
      (grown : observabilityShape.Grown dialect entries entries') :
      GrownUnder dialect "observability" (.table entries) (.table entries')
  | frame {d d' : Document} {before after : List Document} {entries entries' : List (String × Document)}
      (grown : frameShape.Grown dialect entries entries')
      (items : d.items? = some (before ++ .table entries :: after))
      (items' : d'.items? = some (before ++ .table entries' :: after)) : GrownUnder dialect "frames" d d'

/-- A document, and the same with one more entry that says nothing. -/
inductive Grown (dialect : Dialect) : Document → Document → Prop where
  | root {entries entries' : List (String × Document)} (grown : shape.Grown dialect entries entries') :
      Grown dialect (.table entries) (.table entries')
  | under {before after : List (String × Document)} {key : String} {d d' : Document}
      (grown : GrownUnder dialect key d d') :
      Grown dialect (.table (before ++ (key, d) :: after)) (.table (before ++ (key, d') :: after))

/-- Documents of which each can be made from the other by adding entries that say nothing and taking such
entries away. -/
def Edited (dialect : Dialect) : Document → Document → Prop := Relation.EqvGen (Grown dialect)

/-- The entries of a frame, and the same without one that a frame needs, or without both. A frame that has lost
both is first found to lack its name. -/
inductive Bereft : String → List (String × Document) → List (String × Document) → Prop where
  | one {front back : List (String × Document)} {key : String} {value : Document}
      (needed : key = "name" ∨ key = "bind_address") (absent : key ∉ (front ++ back).map Prod.fst) :
      Bereft key (front ++ (key, value) :: back) (front ++ back)
  | both {front back entries : List (String × Document)} {value : Document}
      (absent : "name" ∉ (front ++ back).map Prod.fst)
      (address : Bereft "bind_address" entries (front ++ ("name", value) :: back)) :
      Bereft "name" entries (front ++ back)

/-- A document, and the same without what the frame with an index needs. The frames behind it may have become
anything. -/
inductive Lost (key : String) (index : Nat) : Document → Document → Prop where
  | frame {before after entries entries' : List (String × Document)} {d d' : Document}
      {items rest rest' : List Document} (place : items.length = index) (bereft : Bereft key entries entries')
      (given : d.items? = some (items ++ .table entries :: rest))
      (left : d'.items? = some (items ++ .table entries' :: rest')) :
      Lost key index (.table (before ++ ("frames", d) :: after)) (.table (before ++ ("frames", d') :: after))

section
variable {shape : Shape α β} {slots : List (Slot α)} {entries entries' before after : List (String × Document)}
  {key : String} {d d' : Document} {v : β}

theorem Shape.readTable_congr (same : entries.foldlM (shape.readEntry dialect) shape.start =
    entries'.foldlM (shape.readEntry dialect) shape.start) :
    shape.readTable dialect entries = shape.readTable dialect entries' := by
  unfold readTable
  rw [same]

theorem Shape.readTable_unfinished {t : α} {i : Nat}
    (read : entries.foldlM (shape.readEntry dialect) shape.start = .ok t) (unfinished : shape.finish t = .error i) :
    shape.readTable dialect entries = .error { cause := .missingField ((shape.fields[i]?.map (·.1)).getD "") } := by
  unfold readTable
  simp only [read, bind, Except.bind, unfinished]

theorem Shape.readTable_replace (same : ∀ s, shape.readEntry dialect s (key, d) = shape.readEntry dialect s (key, d')) :
    shape.readTable dialect (before ++ (key, d) :: after) = shape.readTable dialect (before ++ (key, d') :: after) := by
  apply readTable_congr
  simp only [List.foldlM_append, List.foldlM_cons, same]

theorem Shape.readTable_spoilt {fault : Fault} (read : shape.readTable dialect (before ++ (key, d) :: after) = .ok v)
    (fails : ∀ s, shape.readEntry dialect s (key, d') = .error fault) :
    shape.readTable dialect (before ++ (key, d') :: after) = .error fault := by
  obtain ⟨t, whole, -⟩ := readTable_eq_ok_iff.mp read
  rw [List.foldlM_append, bind_eq_ok_iff] at whole
  obtain ⟨s, front, -⟩ := whole
  unfold readTable
  rw [List.foldlM_append, front]
  change (List.foldlM _ s ((key, d') :: after) >>= _) = _
  rw [List.foldlM_cons, fails]
  rfl

theorem Shape.Grown.idle (grown : shape.Grown dialect entries entries') :
    ∃ before after key value, entries = before ++ after ∧ entries' = before ++ (key, value) :: after ∧
      key ∉ (before ++ after).map Prod.fst ∧ shape.readEntry dialect shape.start (key, value) = .ok shape.start := by
  cases grown with
  | unknown absent strange =>
    refine ⟨_, _, _, _, rfl, rfl, absent, ?_⟩
    rw [← lookup_eq_none_iff_notMem] at strange
    simp only [readEntry, strange]
  | usual absent usual =>
    obtain ⟨read, field, same⟩ := usual
    refine ⟨_, _, _, _, rfl, rfl, absent, ?_⟩
    simp only [readEntry, field]
    exact within_eq_ok_iff.mpr same

theorem Shape.Grown.readTable (slotted : shape.Slotted slots) (grown : shape.Grown dialect entries entries') :
    shape.readTable dialect entries = shape.readTable dialect entries' := by
  obtain ⟨before, after, key, value, rfl, rfl, absent, idle⟩ := grown.idle
  apply readTable_congr
  rw [List.foldlM_append, List.foldlM_append]
  -- What comes before the new entry has left the slot of its key as it was at the start.
  cases front : before.foldlM (shape.readEntry dialect) shape.start with
  | error fault => rfl
  | ok s =>
    have stays := slotted.readEntry_idle (fun there => absent (by simp [there])) idle front
    change _ = List.foldlM _ s _
    rw [List.foldlM_cons, stays]

end

section
variable {γ : Type} {read : Document → Except Fault γ} {d d' x x' : Document}
  {before after after' : List Document}

theorem readItems_replace (items : d.items? = some (before ++ x :: after))
    (items' : d'.items? = some (before ++ x' :: after)) (same : read x = read x') :
    readItems read d = readItems read d' := by
  simp only [readItems, items, items', List.zipIdx_append, List.zipIdx_cons, List.mapM_append, List.mapM_cons, same]

theorem readItems_spoilt {all : List γ} {fault : Fault} (items : d.items? = some (before ++ x :: after))
    (items' : d'.items? = some (before ++ x' :: after')) (fine : readItems read d = .ok all)
    (fails : read x' = .error fault) : readItems read d' = .error (fault.at (.item before.length)) := by
  simp only [readItems, items, List.zipIdx_append, List.mapM_append, bind_eq_ok_iff] at fine
  obtain ⟨front, first, -⟩ := fine
  simp only [readItems, items', List.zipIdx_append, List.mapM_append, first, List.zipIdx_cons, List.mapM_cons, fails,
    Nat.zero_add]
  rfl

theorem read_of_readItems {all : List γ} (items : d.items? = some (before ++ x :: after))
    (fine : readItems read d = .ok all) : ∃ y, read x = .ok y := by
  simp only [readItems, items, List.zipIdx_append, List.zipIdx_cons, List.mapM_append, List.mapM_cons,
    bind_eq_ok_iff, within_eq_ok_iff] at fine
  obtain ⟨front, -, -, ⟨y, read, -⟩, -⟩ := fine
  exact ⟨y, read⟩

end

theorem GrownUnder.readEntry {key : String} {d d' : Document} (grown : GrownUnder dialect key d d') (c : Config) :
    shape.readEntry dialect c (key, d) = shape.readEntry dialect c (key, d') := by
  cases grown with
  | lifecycle grown =>
    have member : lifecycleSlot ∈ slots := by simp [slots]
    apply root_slotted.readEntry_congr member
    exact grown.readTable lifecycle_slotted
  | logging grown =>
    have member : loggingSlot ∈ slots := by simp [slots]
    apply root_slotted.readEntry_congr member
    exact grown.readTable logging_slotted
  | observability grown =>
    have member : observabilitySlot ∈ slots := by simp [slots]
    apply root_slotted.readEntry_congr member
    exact grown.readTable observability_slotted
  | frame grown items items' =>
    apply root_slotted.readEntry_congr framesSlot_mem
    exact readItems_replace items items' (grown.readTable frame_slotted)

theorem Grown.read {d d' : Document} (grown : Grown dialect d d') : read dialect d = read dialect d' := by
  cases grown with
  | root grown => exact grown.readTable root_slotted
  | under grown => exact Shape.readTable_replace grown.readEntry

theorem Edited.read {d d' : Document} (edited : Edited dialect d d') : read dialect d = read dialect d' := by
  induction edited with
  | rel _ _ grown => exact grown.read
  | refl _ => rfl
  | symm _ _ _ ih => exact ih.symm
  | trans _ _ _ _ _ first second => exact first.trans second

/-- What a frame is refused for that lacks the entry of a key. -/
def frameWithout (key : String) (index : Nat) : Fault :=
  { cause := .missingField key, path := [.field "frames", .item index] }

theorem PartialFrame.finish_eq_ok_iff {f : PartialFrame} {e : FrameEntry} : f.finish = .ok e ↔
    f.name = some e.name ∧ f.version = e.version ∧ f.bindAddress = some e.bindAddress ∧
      f.requestTimeoutSeconds = e.requestTimeoutSeconds := by
  obtain ⟨name, version, bindAddress, requestTimeoutSeconds⟩ := f
  obtain ⟨_, _, _, _⟩ := e
  cases name <;> cases bindAddress <;> simp [finish, and_left_comm]

/-- A frame that has lost what it needs: what is left of it can be read, but something is missing at the end. -/
theorem Bereft.foldlM {key : String} {entries entries' : List (String × Document)} {t : PartialFrame}
    (bereft : Bereft key entries entries')
    (whole : entries.foldlM (frameShape.readEntry dialect) frameShape.start = .ok t) :
    ∃ u, entries'.foldlM (frameShape.readEntry dialect) frameShape.start = .ok u ∧
      ((key = "name" ∧ u.name = none) ∨ (key = "bind_address" ∧ u.bindAddress = none ∧ u.name = t.name)) := by
  have name : PartialFrame.nameSlot ∈ PartialFrame.slots := by simp [PartialFrame.slots]
  have address : PartialFrame.bindAddressSlot ∈ PartialFrame.slots := by simp [PartialFrame.slots]
  induction bereft with
  | one needed absent =>
    rcases needed with rfl | rfl
    · obtain ⟨u, x, rest, blank, -⟩ := frame_slotted.foldlM_remove name absent whole
      exact ⟨u, rest, .inl ⟨rfl, blank⟩⟩
    · obtain ⟨u, x, rest, blank, rfl⟩ := frame_slotted.foldlM_remove address absent whole
      exact ⟨u, rest, .inr ⟨rfl, blank, rfl⟩⟩
  | both absent _ ih =>
    obtain ⟨u, rest, -⟩ := ih whole
    obtain ⟨v, x, rest, blank, -⟩ := frame_slotted.foldlM_remove name absent rest
    exact ⟨v, rest, .inl ⟨rfl, blank⟩⟩

/-- The name of a frame is its first field and the address its third. -/
theorem Bereft.readTable {key : String} {entries entries' : List (String × Document)} {f : FrameEntry}
    (bereft : Bereft key entries entries') (fine : frameShape.readTable dialect entries = .ok f) :
    frameShape.readTable dialect entries' = .error { cause := .missingField key } := by
  obtain ⟨t, whole, finished⟩ := Shape.readTable_eq_ok_iff.mp fine
  obtain ⟨name, -⟩ := PartialFrame.finish_eq_ok_iff.mp finished
  obtain ⟨u, rest, ⟨rfl, blank⟩ | ⟨rfl, blank, same⟩⟩ := bereft.foldlM whole
  · have unfinished : u.finish = .error 0 := by
      unfold PartialFrame.finish
      rw [blank]
    exact Shape.readTable_unfinished rest unfinished
  · have unfinished : u.finish = .error 2 := by
      unfold PartialFrame.finish
      rw [blank, same, name]
    exact Shape.readTable_unfinished rest unfinished

theorem Lost.read {key : String} {index : Nat} {d d' : Document} {c : Config} (lost : Lost key index d d')
    (fine : read dialect d = .ok c) : read dialect d' = .error (frameWithout key index) := by
  obtain @⟨before, after, entries, entries', frames, frames', items, rest, rest', rfl, bereft, given, left⟩ := lost
  -- All was read, so the entry of the frames and in it the frame that is to lose something.
  obtain ⟨u, whole, -⟩ := Shape.readTable_eq_ok_iff.mp fine
  rw [List.foldlM_append, bind_eq_ok_iff] at whole
  obtain ⟨s, -, whole⟩ := whole
  rw [List.foldlM_cons, bind_eq_ok_iff] at whole
  obtain ⟨t, entry, -⟩ := whole
  obtain ⟨all, listed, -⟩ := (root_slotted.readEntry_eq_ok_iff framesSlot_mem).mp entry
  obtain ⟨f, read⟩ := read_of_readItems given listed
  have unread := readItems_spoilt given left listed (bereft.readTable read)
  apply Shape.readTable_spoilt fine
  intro c
  have entry := root_slotted.readEntry_of_mem framesSlot_mem dialect frames' c
  rw [show framesSlot.value dialect frames' = _ from unread] at entry
  exact entry

theorem Shows.usual {shape : Shape α β} {slots : List (Slot α)} {d : Document} {t : α}
    {entries : List (String × Document)} {entry : String × Document} (shows : Shows dialect d t slots)
    (slotted : shape.Slotted slots) (written : d.entries? = some entries) (member : entry ∈ entries) :
    ∃ slot ∈ slots, entry.1 = slot.key ∧
      (slot.get t = slot.get shape.start → shape.Usual dialect entry.1 entry.2) := by
  obtain ⟨_, rfl, writes⟩ := shows
  cases written
  obtain ⟨slot, there, key, read⟩ := writes.exists_slot member
  refine ⟨slot, there, key, fun initial => ⟨slot.field.2, ?_, map_eq_ok_iff.mpr ⟨_, read, ?_⟩⟩⟩
  · rw [key]
    exact slotted.lookup_field there
  · rw [initial]
    exact slotted.set_get there shape.start

/-- What is written for the fields of a default configuration says no more than if they were left out. -/
structure Defaults (dialect : Dialect) : Prop where
  root : ∀ entries, ({} : Config).toDocument.entries? = some entries →
    ∀ entry ∈ entries, shape.Usual dialect entry.1 entry.2
  lifecycle : ∀ entries, ({} : Lifecycle).toDocument.entries? = some entries →
    ∀ entry ∈ entries, lifecycleShape.Usual dialect entry.1 entry.2
  logging : ∀ entries, ({} : Logging).toDocument.entries? = some entries →
    ∀ entry ∈ entries, loggingShape.Usual dialect entry.1 entry.2
  observability : ∀ entries, ({} : Observability).toDocument.entries? = some entries →
    ∀ entry ∈ entries, observabilityShape.Usual dialect entry.1 entry.2
  frame : ∀ entries, FrameEntry.fallback.toDocument.entries? = some entries →
    ∀ entry ∈ entries, entry.1 ≠ "name" → entry.1 ≠ "bind_address" → frameShape.Usual dialect entry.1 entry.2

theorem defaults (dialect : Dialect) : Defaults dialect where
  root entries written entry member := by
    obtain ⟨slot, -, -, usual⟩ := (shows_root {}).usual root_slotted written member
    exact usual rfl
  lifecycle entries written entry member := by
    obtain ⟨slot, -, -, usual⟩ := (shows_lifecycle {}).usual lifecycle_slotted written member
    exact usual rfl
  logging entries written entry member := by
    obtain ⟨slot, -, -, usual⟩ := (shows_logging {}).usual logging_slotted written member
    exact usual rfl
  observability entries written entry member := by
    obtain ⟨slot, -, -, usual⟩ := (shows_observability {}).usual observability_slotted written member
    exact usual rfl
  frame entries written entry member := by
    obtain ⟨slot, there, key, usual⟩ := (shows_frame .fallback).usual frame_slotted written member
    intro name address
    simp only [PartialFrame.slots, List.mem_cons, List.not_mem_nil, or_false] at there
    obtain rfl | rfl | rfl | rfl := there
    · exact (name key).elim
    · exact usual rfl
    · exact (address key).elim
    · exact usual rfl

/-- A document, and one made from it by edits, among which some frame loses what it needs. -/
def Wanting (dialect : Dialect) (key : String) (index : Nat) (d d' : Document) : Prop :=
  ∃ d₁ d₂, Edited dialect d d₁ ∧ Lost key index d₁ d₂ ∧ Edited dialect d₂ d'

theorem Wanting.read {key : String} {index : Nat} {d d' : Document} {c : Config}
    (wanting : Wanting dialect key index d d') (fine : read dialect d = .ok c) :
    read dialect d' = .error (frameWithout key index) := by
  obtain ⟨d₁, d₂, first, lost, second⟩ := wanting
  rw [first.read] at fine
  rw [← second.read]
  exact lost.read fine

/-! A sample of edits. -/

def sampleFrame : List (String × Document) := [("name", .text "api"), ("bind_address", .text "127.0.0.1:8080")]

def sampleEntries (lifecycle frame : List (String × Document)) : List (String × Document) :=
  [("lifecycle", .table lifecycle), ("frames", .list [.table frame])]

def sample : Document := .table (sampleEntries [("start_interval_ms", .integer 1000)] sampleFrame)

/-- The sample with an owner and a version of null, but without the usual interval. -/
def editedSample : Document :=
  .table (("owner", .list [.null]) :: sampleEntries [] (("version", .null) :: sampleFrame))

/-- The sample with an owner, but without the name of its frame. -/
def wantingSample : Document :=
  .table (("owner", .list [.null]) :: sampleEntries [("start_interval_ms", .integer 1000)] sampleFrame.tail)

theorem owner_grown (entries : List (String × Document)) (absent : "owner" ∉ entries.map Prod.fst) :
    Grown .json (.table entries) (.table (("owner", .list [.null]) :: entries)) :=
  .root (@Shape.Grown.unknown _ _ shape _ [] entries _ _ absent (by decide))

theorem interval_grown (frame : List (String × Document)) :
    Grown .json (.table (sampleEntries [] frame))
      (.table (sampleEntries [("start_interval_ms", .integer 1000)] frame)) := by
  have usual : lifecycleShape.Usual .json "start_interval_ms" (.integer 1000) :=
    (defaults .json).lifecycle _ rfl ("start_interval_ms", _) List.mem_cons_self
  exact @Grown.under _ [] _ _ _ _ (.lifecycle (@Shape.Grown.usual _ _ _ _ [] [] _ _ (by decide) usual))

theorem version_grown (lifecycle : List (String × Document)) :
    Grown .json (.table (sampleEntries lifecycle sampleFrame))
      (.table (sampleEntries lifecycle (("version", .null) :: sampleFrame))) := by
  have usual : frameShape.Usual .json "version" .null := ⟨_, rfl, rfl⟩
  have grown := @Shape.Grown.usual _ _ _ _ [] sampleFrame _ _ (by decide) usual
  have under := @GrownUnder.frame _ (.list _) (.list _) [] [] _ _ grown rfl rfl
  exact @Grown.under _ [("lifecycle", .table lifecycle)] [] _ _ _ under

theorem sample_edited : Edited .json sample editedSample :=
  .trans _ _ _ (.rel _ _ (version_grown _)) <|
    .trans _ _ _ (.symm _ _ (.rel _ _ (interval_grown _))) (.rel _ _ (owner_grown _ (by decide)))

theorem sample_wanting : Wanting .json "name" 0 sample wantingSample := by
  have bereft := @Bereft.one [] sampleFrame.tail "name" (.text "api") (.inl rfl) (by decide)
  have lost := @Lost.frame "name" 0
    [("owner", .list [.null]), ("lifecycle", .table [("start_interval_ms", .integer 1000)])] []
    _ _ (.list _) (.list _) [] [] [] rfl bereft rfl rfl
  exact ⟨_, _, .rel _ _ (owner_grown _ (by decide)), lost, .refl _⟩

def sampleConfig : Config := { frames := [{ name := "api", bindAddress := "127.0.0.1:8080" }] }

theorem sample_read : read .json sample = .ok sampleConfig := by
  have known : (read .json sample).toOption = some sampleConfig := by decide +kernel
  cases fine : read .json sample with
  | ok c => rw [fine] at known; exact congrArg Except.ok (Option.some.inj known)
  | error fault => rw [fine] at known; cases known

/-! What is read of a text and of a document at hand. -/

section
variable {content : String} {node : Toml.Node} {c : Config} {fault : Fault} {d : Document}

theorem readToml_of_read (parsed : Toml.parse? content = some node) (fine : read .toml node.document = .ok c) :
    readToml content = .ok c := by
  simp only [readToml, parsed, fine]

theorem parse_of_read [Log.Patterns] (parsed : Toml.parse? content = some node)
    (fine : read .toml node.document = .ok c) :
    parse content = validated c := by
  simp only [parse, readToml_of_read parsed fine, Except.bind]

theorem parse_of_fault [Log.Patterns] (parsed : Toml.parse? content = some node)
    (fails : read .toml node.document = .error fault) :
    ∃ misfit, parse content = .error (.data misfit) ∧ misfit.what = fault.message .toml ∧
      misfit.keys = fault.path.filterMap Step.key? := by
  simp only [parse, readToml, parsed, fails, Except.bind]
  exact ⟨_, rfl, rfl, rfl⟩

theorem ofDocument_of_fault [Log.Patterns] (fails : read .json d = .error fault) :
    ofDocument d = .error (.document (fault.message .json)) := by
  simp only [ofDocument, fails]

end

/-- A document from which a configuration is read, and all that edits make of it: as documents of its dialect, as
texts, and as documents that are at hand. -/
structure Steady [Log.Patterns] (dialect : Dialect) (d : Document) (c : Config) : Prop where
  defaults : Defaults dialect
  kept : ∀ d', Edited dialect d d' → read dialect d' = .ok c
  refused : ∀ key index d', Wanting dialect key index d d' → read dialect d' = .error (frameWithout key index)
  keptText : dialect = .toml → ∀ content node, Toml.parse? content = some node → Edited .toml d node.document →
    readToml content = .ok c ∧ parse content = validated c
  refusedText : dialect = .toml → ∀ key index content node, Toml.parse? content = some node →
    Wanting .toml key index d node.document →
    ∃ misfit, parse content = .error (.data misfit) ∧ misfit.what = "missing field `" ++ key ++ "`" ∧
      misfit.keys = ["frames"]
  keptAtHand : dialect = .json → ∀ d', Edited .json d d' → ofDocument d' = validated c
  refusedAtHand : dialect = .json → ∀ key index d', Wanting .json key index d d' →
    ofDocument d' = .error (.document ("missing field `" ++ key ++ "`"))

/-- Where a configuration can be read, entries that mean nothing and entries that say what is the case without them
come and go without a trace, and a frame without its name or its address is found to lack it. -/
theorem steady_under_edits [Log.Patterns] {dialect : Dialect} {d : Document} {c : Config}
    (fine : read dialect d = .ok c) :
    Steady dialect d c where
  defaults := defaults dialect
  kept d' edited := edited.read.symm.trans fine
  refused key index d' wanting := wanting.read fine
  keptText := by
    rintro rfl content node parsed edited
    have same := edited.read.symm.trans fine
    exact ⟨readToml_of_read parsed same, parse_of_read parsed same⟩
  refusedText := by
    rintro rfl key index content node parsed wanting
    exact parse_of_fault parsed (wanting.read fine)
  keptAtHand := by
    rintro rfl d' edited
    exact ofDocument_of_read (edited.read.symm.trans fine)
  refusedAtHand := by
    rintro rfl key index d' wanting
    exact ofDocument_of_fault (wanting.read fine)

theorem sample_steady : read .json sample = .ok sampleConfig ∧ read .json editedSample = .ok sampleConfig ∧
    ofDocument editedSample = .ok sampleConfig ∧
    read .json wantingSample = .error (frameWithout "name" 0) ∧
    ofDocument wantingSample = .error (.document "missing field `name`") := by
  have steady := steady_under_edits sample_read
  have valid : validated sampleConfig = .ok sampleConfig := by decide +kernel
  exact ⟨sample_read, steady.kept _ sample_edited, (steady.keptAtHand rfl _ sample_edited).trans valid,
    steady.refused _ _ _ sample_wanting, steady.refusedAtHand rfl _ _ _ sample_wanting⟩

end FrameHost.Config
