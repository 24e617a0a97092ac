import FrameHost.Config.Loading
import FrameHost.Log.Pattern
import FrameHost.Proofs.Log.Tearing

/-! When there is an answer to a configuration.

Validation answers every configuration but those whose log level is torn, and so does loading. A level that
has no blank in front of a piece, or no character of several bytes, is never torn. -/

set_option autoImplicit false

namespace FrameHost.Config

/-- What may be answered to a text that should hold a configuration. -/
inductive Answered : Except LoadError Config → Prop
  | accepted (c : Config) : Answered (.ok c)
  | grammar : Answered (.error .grammar)
  | data (misfit : Toml.Misfit) : Answered (.error (.data misfit))
  | refused {errors : List ValidationError} (found : errors ≠ []) : Answered (.error (.validation errors))

theorem errors?_eq_none_iff [Log.Patterns] {c : Config} : c.errors? = none ↔ Log.Filter.Torn c.logging.level := by
  rw [← Log.Filter.parse_eq_torn_iff, errors?, Option.map_eq_none_iff, levelErrors?]
  split
  · rename_i filter read
    simp [read]
  · rename_i torn
    simp [torn]
  · rename_i defect whole read
    simpa [read] using whole

theorem validated_cases [Log.Patterns] (c : Config) :
    (Log.Filter.Torn c.logging.level ∧ validated c = .error .torn) ∨
    (¬Log.Filter.Torn c.logging.level ∧ Answered (validated c) ∧ validated c ≠ .error .torn) := by
  rw [← errors?_eq_none_iff]
  unfold validated
  cases c.errors? with
  | none => exact .inl ⟨rfl, rfl⟩
  | some errors =>
    refine .inr ⟨nofun, ?_⟩
    cases errors with
    | nil => exact ⟨.accepted c, nofun⟩
    | cons e rest => exact ⟨.refused (List.cons_ne_nil e rest), nofun⟩

theorem parse_cases [Log.Patterns] (content : String) :
    (∃ c, readToml content = .ok c ∧ parse content = validated c) ∨
    (Answered (parse content) ∧ parse content ≠ .error .torn ∧ ∀ c, readToml content ≠ .ok c) := by
  unfold parse
  cases read : readToml content with
  | ok c => exact .inl ⟨c, rfl, rfl⟩
  | error reason =>
    refine .inr ?_
    unfold readToml at read
    split at read
    · cases read
      exact ⟨.grammar, nofun, nofun⟩
    · split at read
      · cases read
      · cases read
        exact ⟨.data _, nofun, nofun⟩

/-- Every configuration gets its errors, and every text is answered, unless the log level in it is torn. For
that, some piece of the level has a blank in front and a character of several bytes within. -/
theorem answered_unless_torn [Log.Patterns] (c : Config) (content level : String) :
    (c.errors? = none ↔ Log.Filter.Torn c.logging.level) ∧
    (parse content = .error .torn ↔ ∃ c, readToml content = .ok c ∧ Log.Filter.Torn c.logging.level) ∧
    (parse content = .error .torn ∨ Answered (parse content)) ∧
    (Log.Filter.Torn level → ∃ piece ∈ Log.Filter.pieces level.toList,
      (∃ c rest, piece = c :: rest ∧ Text.isBlank c = true) ∧ ∃ c ∈ piece, 128 ≤ c.toNat) := by
  refine ⟨errors?_eq_none_iff, ?_, ?_, ?_⟩
  · rcases parse_cases content with ⟨c, read, same⟩ | ⟨-, whole, unread⟩
    · rw [same]
      rcases validated_cases c with ⟨torn, answer⟩ | ⟨untorn, -, answer⟩
      · exact iff_of_true answer ⟨c, read, torn⟩
      · refine iff_of_false answer ?_
        rintro ⟨c', read', torn⟩
        cases read.symm.trans read'
        exact untorn torn
    · exact iff_of_false whole fun ⟨c, read, _⟩ => unread c read
  · rcases parse_cases content with ⟨c, -, same⟩ | ⟨answered, -⟩
    · rw [same]
      rcases validated_cases c with ⟨-, answer⟩ | ⟨-, answered, -⟩
      · exact .inl answer
      · exact .inr answered
    · exact .inr answered
  · rintro ⟨before, piece, after, split, -, tears⟩
    have member : piece ∈ (Log.Filter.pieces level.toList).filter fun part => !part.isEmpty := by
      rw [split]
      simp
    exact ⟨piece, (List.mem_filter.mp member).1, tears.padded⟩

/-- A level that names no level anywhere, behind a blank of two bytes. -/
def tornConfig : Config := { logging := { level := "\u00a0a=nonsense" } }

theorem torn_level_unanswered :
    tornConfig.errors? = none ∧ validated tornConfig = .error .torn ∧
      readToml "[logging]\nlevel = \"\\u00a0a=nonsense\"\n" = .ok tornConfig ∧
      parse "[logging]\nlevel = \"\\u00a0a=nonsense\"\n" = .error .torn := by
  refine ⟨by decide, by decide, by decide +kernel, by decide +kernel⟩

end FrameHost.Config
