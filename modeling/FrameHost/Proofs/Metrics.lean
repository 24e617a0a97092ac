import FrameHost.Metrics

/-! What the entries of the metrics say of their values.

Each metric has a name that no other has, so an entry can be read back. The starts of each key have an
entry of their own from the first one on. -/

set_option autoImplicit false

namespace FrameHost.Metrics

def startName (key : String) : String := "frame_host_frame_starts_total|frame=" ++ key

def shutdownName (graceful : Bool) : String :=
  if graceful then "frame_host_shutdowns_total|graceful=true"
  else "frame_host_shutdowns_total|graceful=false"

def shutdowns (m : Metrics) (graceful : Bool) : Nat := if graceful then m.graceful else m.abrupt

theorem ne_of_getElem?_ne {a b : String} (i : Nat) (differ : a.toList[i]? ≠ b.toList[i]?) : a ≠ b :=
  fun same => differ (same ▸ rfl)

theorem startName_inj {key key' : String} : startName key = startName key' ↔ key = key' := by
  unfold startName
  rw [← String.toList_inj, String.toList_append, String.toList_append, List.append_cancel_left_eq,
    String.toList_inj]

theorem startName_ne_registered (key : String) : startName key ≠ "frame_host_frames_registered" := by
  unfold startName
  refine ne_of_getElem?_ne 16 ?_
  rw [String.toList_append]
  simp

theorem startName_ne_shutdownName (key : String) (graceful : Bool) :
    startName key ≠ shutdownName graceful := by
  unfold startName
  refine ne_of_getElem?_ne 11 ?_
  rw [String.toList_append]
  cases graceful <;> simp [shutdownName]

theorem shutdownName_ne_registered (graceful : Bool) :
    shutdownName graceful ≠ "frame_host_frames_registered" := by
  cases graceful <;> decide

section
variable (m : Metrics) (n : Nat)

theorem mem_entries_iff (name : String) : (name, n) ∈ m.entries ↔
    (name = "frame_host_frames_registered" ∧ m.registered = some n) ∨
    (∃ key, name = startName key ∧ (key, n) ∈ m.starts) ∨
    ∃ graceful, name = shutdownName graceful ∧ n = m.shutdowns graceful ∧ 0 < n := by
  have verdict (graceful : Bool) (count : Nat) :
      (name, n) ∈ (if 0 < count then [(shutdownName graceful, count)] else []) ↔
        name = shutdownName graceful ∧ n = count ∧ 0 < n := by
    by_cases positive : 0 < count
    · rw [if_pos positive, List.mem_singleton, Prod.mk.injEq]
      exact and_congr_right fun _ => ⟨fun same => ⟨same, same ▸ positive⟩, And.left⟩
    · rw [if_neg positive]
      exact iff_of_false List.not_mem_nil fun listed => positive (listed.2.1 ▸ listed.2.2)
  change (name, n) ∈ (m.registered.map fun n => ("frame_host_frames_registered", n)).toList
    ++ m.starts.map (fun start => (startName start.1, start.2))
    ++ (if 0 < m.graceful then [(shutdownName true, m.graceful)] else [])
    ++ (if 0 < m.abrupt then [(shutdownName false, m.abrupt)] else []) ↔ _
  rw [List.mem_append, List.mem_append, List.mem_append, verdict, verdict, Bool.exists_bool, or_assoc, or_assoc]
  refine or_congr ?_ (or_congr ?_ (Or.comm.trans (or_congr Iff.rfl Iff.rfl)))
  · cases m.registered <;> simp [eq_comm]
  · simp only [List.mem_map, Prod.exists, Prod.mk.injEq]
    constructor
    · rintro ⟨key, _, member, rfl, rfl⟩
      exact ⟨key, rfl, member⟩
    · rintro ⟨key, rfl, member⟩
      exact ⟨key, n, member, rfl, rfl⟩

theorem registered_iff : ("frame_host_frames_registered", n) ∈ m.entries ↔ m.registered = some n := by
  simp [mem_entries_iff, (startName_ne_registered _).symm, (shutdownName_ne_registered _).symm]

theorem started_iff (key : String) : (startName key, n) ∈ m.entries ↔ (key, n) ∈ m.starts := by
  simp [mem_entries_iff, startName_ne_registered, startName_ne_shutdownName, startName_inj]

theorem shutdowns_iff (graceful : Bool) :
    (shutdownName graceful, n) ∈ m.entries ↔ n = m.shutdowns graceful ∧ 0 < n := by
  have distinct : shutdownName true ≠ shutdownName false := by decide
  simp only [mem_entries_iff, shutdownName_ne_registered, (startName_ne_shutdownName _ _).symm, false_and,
    false_or, exists_false, Bool.exists_bool]
  cases graceful <;> simp [distinct, distinct.symm]

end

/-- Entries that count how often each key occurs. -/
structure Tallies (starts : List (String × Nat)) (keys : List String) : Prop where
  distinct : (starts.map Prod.fst).Nodup
  counts : ∀ key n, (key, n) ∈ starts ↔ n = keys.count key ∧ 0 < n

section
variable {starts : List (String × Nat)} {keys : List String}

theorem map_fst_increment (key : String) : (increment key starts).map Prod.fst =
    if key ∈ starts.map Prod.fst then starts.map Prod.fst else starts.map Prod.fst ++ [key] := by
  induction starts with
  | nil => rfl
  | cons first rest ih =>
    obtain ⟨k, n⟩ := first
    by_cases same : k = key
    · subst same
      simp [increment]
    · rw [increment, if_neg same, List.map_cons, ih]
      by_cases listed : key ∈ rest.map Prod.fst
      · simp [listed]
      · simp [listed, Ne.symm same]

theorem mem_increment_other {key other : String} {n : Nat} (differ : other ≠ key) :
    (other, n) ∈ increment key starts ↔ (other, n) ∈ starts := by
  induction starts with
  | nil => simp [increment, differ]
  | cons first rest ih =>
    obtain ⟨k, m⟩ := first
    by_cases same : k = key
    · subst same
      simp [increment, differ]
    · rw [increment, if_neg same, List.mem_cons, List.mem_cons, ih]

theorem mem_increment_self {key : String} {n : Nat} (distinct : (starts.map Prod.fst).Nodup) :
    (key, n) ∈ increment key starts ↔
      (∃ m, (key, m) ∈ starts ∧ n = m + 1) ∨ key ∉ starts.map Prod.fst ∧ n = 1 := by
  induction starts with
  | nil => simp [increment]
  | cons first rest ih =>
    obtain ⟨k, m⟩ := first
    rw [List.map_cons, List.nodup_cons] at distinct
    by_cases same : k = key
    · subst same
      -- The key has its only entry here, so none is left behind it.
      have once (n : Nat) : (k, n) ∉ rest := fun member =>
        distinct.1 (List.mem_map.mpr ⟨_, member, rfl⟩)
      simp [increment, once]
    · rw [increment, if_neg same, List.mem_cons, ih distinct.2]
      simp [Ne.symm same]

theorem Tallies.nil : Tallies [] [] where
  distinct := .nil
  counts key n := by
    refine ⟨nofun, fun ⟨unlisted, above⟩ => ?_⟩
    rw [unlisted, List.count_nil] at above
    exact absurd above (Nat.lt_irrefl 0)

theorem Tallies.increment (tallies : Tallies starts keys) (key : String) :
    Tallies (increment key starts) (keys ++ [key]) := by
  constructor
  · rw [map_fst_increment]
    split
    · exact tallies.distinct
    · rename_i fresh
      rw [List.nodup_append]
      refine ⟨tallies.distinct, List.nodup_cons.mpr ⟨List.not_mem_nil, .nil⟩, fun k old l new same => ?_⟩
      rw [List.mem_singleton.mp new] at same
      exact fresh (same ▸ old)
  · intro other n
    by_cases same : other = key
    · subst same
      rw [mem_increment_self tallies.distinct]
      simp only [tallies.counts, List.mem_map, Prod.exists, exists_and_right, exists_eq_right, List.count_append,
        List.count_singleton_self]
      constructor
      · rintro (⟨m, ⟨rfl, above⟩, rfl⟩ | ⟨absent, rfl⟩)
        · omega
        · have none : ¬0 < keys.count other := fun above => absent ⟨_, rfl, above⟩
          omega
      · rintro ⟨rfl, -⟩
        by_cases above : 0 < keys.count other
        · exact .inl ⟨_, ⟨rfl, above⟩, rfl⟩
        · refine .inr ⟨fun ⟨m, same, positive⟩ => above (same ▸ positive), by omega⟩
    · rw [mem_increment_other same, tallies.counts, List.count_append]
      simp [Ne.symm same]

theorem Tallies.foldl (tallies : Tallies starts keys) (more : List String) :
    Tallies (more.foldl (fun starts key => Metrics.increment key starts) starts) (keys ++ more) := by
  induction more generalizing starts keys with
  | nil => simpa using tallies
  | cons key rest ih => simpa using ih (tallies.increment key)

end

end FrameHost.Metrics
