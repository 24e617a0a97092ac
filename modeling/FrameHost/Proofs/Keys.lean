import Mathlib.Data.List.Induction
import FrameHost.Config

/-! Which identities share a key.

A key does not say where its name ends, for names and versions may hold underscores of their own. Two
identities share a key exactly if one has a longer name, and the version of the other begins with what
that name goes on with. Names without underscores rule this out. -/

set_option autoImplicit false

namespace FrameHost

/-- Two lists cut at a separator are the same if they are cut alike, or if one is cut at a later
separator. -/
theorem append_cons_eq_append_cons_iff {α : Type} {x : α} {as bs cs ds : List α} :
    as ++ x :: bs = cs ++ x :: ds ↔ (as = cs ∧ bs = ds) ∨
      (∃ ws, cs = as ++ x :: ws ∧ bs = ws ++ x :: ds) ∨ ∃ ws, as = cs ++ x :: ws ∧ ds = ws ++ x :: bs := by
  constructor
  · intro same
    rcases List.append_eq_append_iff.mp same with ⟨between, longer, tail⟩ | ⟨between, longer, tail⟩
    -- What one name is longer by is nothing, or begins with the separator.
    · cases between with
      | nil => exact .inl ⟨by simpa using longer.symm, by simpa using tail⟩
      | cons y ws =>
        obtain ⟨rfl, rest⟩ := List.cons.inj tail
        exact .inr (.inl ⟨ws, longer, rest⟩)
    · cases between with
      | nil => exact .inl ⟨by simpa using longer, by simpa using tail.symm⟩
      | cons y ws =>
        obtain ⟨rfl, rest⟩ := List.cons.inj tail
        exact .inr (.inr ⟨ws, longer, rest⟩)
  · rintro (⟨rfl, rfl⟩ | ⟨ws, rfl, rfl⟩ | ⟨ws, rfl, rfl⟩) <;> simp

theorem joined_eq_joined_iff {a b c d : String} :
    a ++ "_" ++ b = c ++ "_" ++ d ↔ (a = c ∧ b = d) ∨
      (∃ w, c = a ++ "_" ++ w ∧ b = w ++ "_" ++ d) ∨ ∃ w, a = c ++ "_" ++ w ∧ d = w ++ "_" ++ b := by
  have spelled (s t : String) : (s ++ "_" ++ t).toList = s.toList ++ '_' :: t.toList := by simp
  have longer {s t u v : String} :
      (∃ w, t = s ++ "_" ++ w ∧ u = w ++ "_" ++ v) ↔
        ∃ ws, t.toList = s.toList ++ '_' :: ws ∧ u.toList = ws ++ '_' :: v.toList := by
    constructor
    · rintro ⟨w, rfl, rfl⟩
      exact ⟨w.toList, spelled s w, spelled w v⟩
    · rintro ⟨ws, name, rest⟩
      refine ⟨String.ofList ws, String.toList_inj.mp ?_, String.toList_inj.mp ?_⟩
      · rw [spelled, String.toList_ofList, name]
      · rw [spelled, String.toList_ofList, rest]
  rw [← String.toList_inj, spelled, spelled, append_cons_eq_append_cons_iff, String.toList_inj,
    String.toList_inj, longer, longer]

namespace FrameId
variable {a b id : FrameId} {name : String} {version : Option String}

theorem eq_iff : a = b ↔ a.name = b.name ∧ a.version = b.version := by
  cases a
  cases b
  simp

@[simp] theorem version_ofParts (name : String) (version : Option String) :
    (ofParts name version).version = version.filter (· ≠ "") := by
  cases version with
  | none => rfl
  | some v => by_cases empty : v = "" <;> simp [ofParts, Option.filter, empty]

@[simp] theorem ofParts_self (id : FrameId) : ofParts id.name id.version = id := by
  refine eq_iff.mpr ⟨name_ofParts .., ?_⟩
  rw [version_ofParts]
  cases given : id.version with
  | none => rfl
  | some v =>
    have whole : v ≠ "" := fun empty => id.version_ne_empty (empty ▸ given)
    simp [whole]

/-- The name of `b` goes on where that of `a` ends, and all that follows there is in the version of `a`. -/
def Shadows (a b : FrameId) : Prop :=
  ∃ rest, b.name = a.name ++ "_" ++ rest ∧
    a.version = some (match b.version with
      | none => rest
      | some v => rest ++ "_" ++ v)

theorem key_eq_key_iff : a.key = b.key ↔ a = b ∨ a.Shadows b ∨ b.Shadows a := by
  rw [← text_eq_key, ← text_eq_key, eq_iff]
  unfold text Shadows
  cases first : a.version with
  | none =>
    cases second : b.version with
    | none => simp
    | some w => simp
  | some v =>
    cases second : b.version with
    | none => simp [eq_comm]
    | some w => simp [joined_eq_joined_iff]

def Unbroken (name : String) : Prop := '_' ∉ name.toList

instance (name : String) : Decidable (Unbroken name) := inferInstanceAs (Decidable (_ ∉ _))

theorem Shadows.broken (shadows : a.Shadows b) : ¬Unbroken b.name := by
  obtain ⟨rest, longer, -⟩ := shadows
  simp [Unbroken, longer]

theorem eq_of_key_eq (first : Unbroken a.name) (second : Unbroken b.name) (same : a.key = b.key) :
    a = b := by
  rcases key_eq_key_iff.mp same with equal | shadows | shadows
  · exact equal
  · exact (shadows.broken second).elim
  · exact (shadows.broken first).elim

theorem withVersion_eq_ofParts (id : FrameId) (v : String) :
    id.withVersion v = ofParts id.name (some v) := by
  simp [eq_iff, Option.filter]

theorem foldl_withVersion (id : FrameId) (versions : List String) :
    versions.foldl withVersion id = ofParts id.name (versions.getLast?.or id.version) := by
  induction versions using List.reverseRecOn with
  | nil => simp
  | append_singleton earlier v ih => simp [ih, withVersion_eq_ofParts]

end FrameId

end FrameHost
