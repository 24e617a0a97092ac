import FrameHost.Text.Shown

/-! The identity of a frame: a name and perhaps a version.

The key of a frame is its name, or its name and version with an underscore between. Two
identities can share a key; `Registry` admits one frame to a key. -/

set_option autoImplicit false

namespace FrameHost

/-- A version is never the empty text: `withVersion` takes that for no version. -/
structure FrameId where
  name : String
  version : Option String
  version_ne_empty : version ≠ some "" := by simp

/-- The key of a name and version; an empty version counts as none. -/
def keyFor (name : String) (version : Option String) : String :=
  match version with
  | some v => if v = "" then name else name ++ "_" ++ v
  | none => name

namespace FrameId

instance : DecidableEq FrameId := fun a b =>
  match a, b with
  | ⟨n, v, _⟩, ⟨m, w, _⟩ =>
    if h : n = m ∧ v = w then isTrue (by obtain ⟨rfl, rfl⟩ := h; rfl)
    else isFalse fun same => h (by cases same; exact ⟨rfl, rfl⟩)

instance : Inhabited FrameId := ⟨{ name := "", version := none }⟩

def ofName (name : String) : FrameId := { name, version := none }

def withVersion (id : FrameId) (version : String) : FrameId :=
  if h : version = "" then { name := id.name, version := none }
  else { name := id.name, version := some version, version_ne_empty := by simpa using h }

def ofParts (name : String) (version : Option String) : FrameId :=
  match version with
  | some v => (ofName name).withVersion v
  | none => ofName name

def key (id : FrameId) : String := keyFor id.name id.version

def text (id : FrameId) : String :=
  match id.version with
  | some v => id.name ++ "_" ++ v
  | none => id.name

def shown (id : FrameId) : String :=
  Shown.record "FrameId" [
    ("name", Text.quoted id.name),
    ("version", Shown.optional (id.version.map Text.quoted))]

@[simp] theorem name_ofName (name : String) : (ofName name).name = name := rfl

@[simp] theorem name_withVersion (id : FrameId) (v : String) : (id.withVersion v).name = id.name := by
  unfold withVersion; split <;> rfl

@[simp] theorem version_withVersion (id : FrameId) (v : String) :
    (id.withVersion v).version = if v = "" then none else some v := by
  unfold withVersion; split <;> simp [*]

@[simp] theorem name_ofParts (name : String) (version : Option String) :
    (ofParts name version).name = name := by
  cases version <;> simp [ofParts]

theorem text_eq_key (id : FrameId) : id.text = id.key := by
  unfold text key keyFor
  cases h : id.version with
  | none => rfl
  | some v =>
    have : v ≠ "" := fun e => id.version_ne_empty (by rw [h, e])
    simp [this]

theorem key_ofParts (name : String) (version : Option String) :
    (ofParts name version).key = keyFor name version := by
  cases version with
  | none => rfl
  | some v => by_cases h : v = "" <;> simp [ofParts, key, keyFor, h]

end FrameId

end FrameHost
