import Mathlib.Data.List.Forall2
import Mathlib.Data.List.Nodup
import FrameHost.Document

/-! Documents that hold the same, whatever the order of the entries in their tables. -/

set_option autoImplicit false

namespace FrameHost.Document

/-- Documents that differ at most in the order of entries, in tables at any depth. -/
inductive Alike : Document → Document → Prop where
  | same (d : Document) : Alike d d
  | list {items items' : List Document} (alike : List.Forall₂ Alike items items') : Alike (.list items) (.list items')
  | table {entries entries' shuffled : List (String × Document)}
      (keys : entries.map Prod.fst = entries'.map Prod.fst)
      (values : List.Forall₂ Alike (entries.map Prod.snd) (entries'.map Prod.snd))
      (order : entries'.Perm shuffled) : Alike (.table entries) (.table shuffled)

variable {d : Document} {items : List Document} {entries entries' : List (String × Document)}

theorem Alike.of_list (alike : Alike (.list items) d) :
    ∃ items', d = .list items' ∧ List.Forall₂ Alike items items' := by
  cases alike with
  | same => exact ⟨items, rfl, List.forall₂_same.mpr fun x _ => .same x⟩
  | list alike => exact ⟨_, rfl, alike⟩

theorem exists_alike {key : String} {value : Document} (keys : entries.map Prod.fst = entries'.map Prod.fst)
    (values : List.Forall₂ Alike (entries.map Prod.snd) (entries'.map Prod.snd)) (member : (key, value) ∈ entries) :
    ∃ value', (key, value') ∈ entries' ∧ Alike value value' := by
  induction entries generalizing entries' with
  | nil => cases member
  | cons entry rest ih =>
    cases entries' with
    | nil => cases keys
    | cons entry' rest' =>
      obtain ⟨name, keys⟩ := List.cons.inj keys
      obtain ⟨first, values⟩ := List.forall₂_cons.mp values
      rcases List.mem_cons.mp member with rfl | later
      · exact ⟨entry'.2, List.mem_cons.mpr (.inl (Prod.ext name rfl)), first⟩
      · obtain ⟨value', there, alike⟩ := ih keys values later
        exact ⟨value', List.mem_cons_of_mem _ there, alike⟩

/-- What is like a table with keys that differ is a table with the same keys, in some order. -/
theorem Alike.of_table (alike : Alike (.table entries) d) (distinct : (entries.map Prod.fst).Nodup) :
    ∃ entries', d = .table entries' ∧ (entries'.map Prod.fst).Nodup ∧
      ∀ key value, (key, value) ∈ entries → ∃ value', (key, value') ∈ entries' ∧ Alike value value' := by
  cases alike with
  | same => exact ⟨entries, rfl, distinct, fun key value member => ⟨value, member, .same value⟩⟩
  | table keys values order =>
    refine ⟨_, rfl, ?_, fun key value member => ?_⟩
    · rw [keys] at distinct
      exact ((order.map Prod.fst).nodup_iff).mp distinct
    · obtain ⟨value', there, alike⟩ := exists_alike keys values member
      exact ⟨value', order.mem_iff.mp there, alike⟩

theorem insertSorted_perm {key : String} {value : Document} (absent : key ∉ entries.map Prod.fst) :
    (insertSorted key value entries).Perm ((key, value) :: entries) := by
  induction entries with
  | nil => exact .refl _
  | cons entry rest ih =>
    obtain ⟨name, x⟩ := entry
    obtain ⟨differ, absent⟩ := not_or.mp (mt List.mem_cons.mpr absent)
    rw [insertSorted, if_neg (show key ≠ name from differ)]
    split
    · exact .refl _
    · exact ((ih absent).cons (name, x)).trans (.swap _ _ _)

/-- The members of an object with names that differ make up its table. -/
theorem ofMembers_perm {members : List (String × Document)} (distinct : (members.map Prod.fst).Nodup) :
    ∃ entries, ofMembers members = .table entries ∧ members.Perm entries := by
  suffices gathers : ∀ start : List (String × Document), ((start ++ members).map Prod.fst).Nodup →
      (start ++ members).Perm (members.foldl (fun entries m => insertSorted m.1 m.2 entries) start) from
    ⟨_, rfl, gathers [] distinct⟩
  clear distinct
  induction members with
  | nil =>
    intro start _
    rw [List.append_nil]
    exact .refl _
  | cons m rest ih =>
    intro start distinct
    have new : m.1 ∉ start.map Prod.fst := by
      rw [List.map_append, List.map_cons, List.nodup_middle, List.nodup_cons] at distinct
      exact fun there => distinct.1 (List.mem_append_left _ there)
    have joined : (start ++ m :: rest).Perm (insertSorted m.1 m.2 start ++ rest) :=
      List.perm_middle.trans ((insertSorted_perm new).symm.append_right rest)
    exact joined.trans (ih _ ((joined.map Prod.fst).nodup_iff.mp distinct))

end FrameHost.Document
