/-! Pasts: lists of what has happened, with the latest at the end.

What holds of a system now is often that something happened once and nothing has undone it since. -/

set_option autoImplicit false

namespace FrameHost

/-- What is found in a past that has just grown is what came last, or was found before. -/
theorem split_concat {α : Type} {past before after : List α} {m last : α}
    (split : past ++ [last] = before ++ m :: after) :
    (past = before ∧ last = m ∧ after = []) ∨
      ∃ rest, after = rest ++ [last] ∧ past = before ++ m :: rest := by
  rcases List.eq_nil_or_concat after with rfl | ⟨rest, x, rfl⟩
  · obtain ⟨front, same⟩ := List.append_inj' split rfl
    exact .inl ⟨front, List.singleton_inj.mp same, rfl⟩
  · have regrouped : past ++ [last] = (before ++ m :: rest) ++ [x] := by simpa using split
    obtain ⟨front, same⟩ := List.append_inj' regrouped rfl
    cases List.singleton_inj.mp same
    exact .inr ⟨rest, by simp, front⟩

theorem exists_concat_iff {α : Type} {p : α → Prop} {past : List α} {last : α} :
    (∃ m ∈ past ++ [last], p m) ↔ (∃ m ∈ past, p m) ∨ p last := by
  simp only [List.mem_append, List.mem_singleton, or_and_right, exists_or, exists_eq_left]

theorem getElem?_concat_eq_some_iff {α : Type} {past : List α} {i : Nat} {last m : α} :
    (past ++ [last])[i]? = some m ↔ past[i]? = some m ∨ (i = past.length ∧ last = m) := by
  rcases Nat.lt_trichotomy i past.length with below | rfl | above
  · rw [List.getElem?_append_left below]
    simp [Nat.ne_of_lt below]
  · simp
  · have outside : (past ++ [last])[i]? = none :=
      List.getElem?_eq_none (by rw [List.length_append, List.length_singleton]; exact above)
    rw [outside, List.getElem?_eq_none (Nat.le_of_lt above)]
    simp [Nat.ne_of_gt above]

/-- Something began in a past and nothing has ended it since. -/
def Since {α : Type} (began ended : α → Prop) (past : List α) : Prop :=
  ∃ before m after, past = before ++ m :: after ∧ began m ∧ ∀ later ∈ after, ¬ended later

section
variable {α : Type} {began ended : α → Prop} {past more : List α} {last : α}

theorem not_since_nil : ¬Since began ended [] := by
  rintro ⟨before, m, after, split, -⟩
  simp at split

theorem since_concat :
    Since began ended (past ++ [last]) ↔ began last ∨ (Since began ended past ∧ ¬ended last) := by
  constructor
  · rintro ⟨before, m, after, split, begun, kept⟩
    rcases split_concat split with ⟨-, rfl, -⟩ | ⟨rest, rfl, same⟩
    · exact .inl begun
    · exact .inr ⟨⟨before, m, rest, same, begun, fun later member => kept later (by simp [member])⟩,
        kept last (by simp)⟩
  · rintro (begun | ⟨⟨before, m, after, rfl, begun, kept⟩, still⟩)
    · exact ⟨past, last, [], rfl, begun, nofun⟩
    · refine ⟨before, m, after ++ [last], by simp, begun, fun later member => ?_⟩
      rcases List.mem_append.mp member with old | new
      · exact kept later old
      · rw [List.mem_singleton.mp new]
        exact still

theorem Since.append (since : Since began ended past) (kept : ∀ m ∈ more, ¬ended m) :
    Since began ended (past ++ more) := by
  obtain ⟨before, m, after, rfl, begun, still⟩ := since
  refine ⟨before, m, after ++ more, by simp, begun, fun later member => ?_⟩
  exact (List.mem_append.mp member).elim (still later) (kept later)

end

end FrameHost
