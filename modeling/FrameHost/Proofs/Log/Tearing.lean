import Mathlib.Data.List.DropRight
import Mathlib.Data.String.Basic
import FrameHost.Log.Filter

/-! Which directives are torn.

Offsets are counted in a directive without the blanks around it, and parts are cut out of it with them. A
blank in front moves each part, and where characters differ in width a part may come to begin or end inside
one of them. The first such part that a reader has to cut out tears the directive. -/

set_option autoImplicit false

namespace FrameHost.Log.Filter

open String (utf8Len)

/-- A text can be divided as far in as another one is long. -/
def Fits (whole read : List Char) : Prop := ∃ front rest, whole = front ++ rest ∧ utf8Len front = utf8Len read

/-- The name of a target, up to the sign that ends it. -/
def IsName : List Char → Prop
  | [] => False
  | c :: more =>
    (c = '-' ∨ c = ':' ∨ c = '_' ∨ Text.isAlphanumeric c = true) ∧ ∀ d ∈ more, d ≠ '=' ∧ d ≠ '['

/-- What may stand before the bracket of a span. -/
def Opens (whole target : List Char) : Prop := target = [] ∨ (IsName target ∧ Fits whole target)

/-- A directive up to the end of the name of its span, which can be cut out. -/
inductive Spanned (whole : List Char) : List Char → Prop
  | mk {target span : List Char} (opens : Opens whole target) (plain : ∀ c ∈ span, c ≠ ']' ∧ c ≠ '\x7b')
      (first : Fits whole (target ++ ['['])) (last : Fits whole (target ++ '[' :: span)) :
      Spanned whole (target ++ '[' :: span)

/-- A part that can be cut out and is a field. -/
def IsField [Patterns] (whole : List Char) (start stop : Nat) : Prop :=
  ∃ part, cut whole start stop = .ok part ∧ part ≠ [] ∧ ∀ d, ∃ d', readField part d = .ok d'

/-- A directive up to the brace after its field. -/
inductive Fielded [Patterns] (whole : List Char) : List Char → Prop
  | mk {text field : List Char} (spanned : Spanned whole text) (plain : ∀ c ∈ field, c ≠ '\x7d')
      (read : IsField whole (utf8Len (text ++ ['\x7b'])) (utf8Len (text ++ '\x7b' :: field))) :
      Fielded whole (text ++ '\x7b' :: field ++ ['\x7d'])

/-- A directive up to the equals sign before its level. -/
inductive Headed [Patterns] (whole : List Char) : List Char → Prop
  | target {text : List Char} (name : IsName text) (fits : Fits whole text) : Headed whole text
  | span {text : List Char} (spanned : Spanned whole text) : Headed whole (text ++ [']'])
  | field {text : List Char} (fielded : Fielded whole text) : Headed whole (text ++ [']'])

/-- The directives that are torn when their parts are cut out of a text. -/
inductive Tears [Patterns] (whole : List Char) : List Char → Prop
  | target {target rest : List Char} {c : Char} (name : IsName target) (ends : c = '=' ∨ c = '[')
      (torn : ¬Fits whole target) : Tears whole (target ++ c :: rest)
  | span {target span rest : List Char} {c : Char} (opens : Opens whole target)
      (plain : ∀ c ∈ span, c ≠ ']' ∧ c ≠ '\x7b') (ends : c = ']' ∨ c = '\x7b')
      (torn : ¬(Fits whole (target ++ ['[']) ∧ Fits whole (target ++ '[' :: span))) :
      Tears whole (target ++ '[' :: span ++ c :: rest)
  | field {text field rest : List Char} (spanned : Spanned whole text) (plain : ∀ c ∈ field, c ≠ '\x7d')
      (torn : ¬(Fits whole (text ++ ['\x7b']) ∧ Fits whole (text ++ '\x7b' :: field))) :
      Tears whole (text ++ '\x7b' :: field ++ '\x7d' :: rest)
  | level {head level : List Char} (headed : Headed whole head) (torn : ¬Fits whole (head ++ ['='])) :
      Tears whole (head ++ '=' :: level)

section
variable {whole text read front rest part : List Char} {c : Char} {n start stop : Nat}

theorem fromByte_eq_some_iff :
    fromByte n text = some rest ↔ ∃ front, text = front ++ rest ∧ utf8Len front = n := by
  induction text generalizing n with
  | nil =>
    cases n with
    | zero => simp [fromByte, eq_comm]
    | succ n => simp [fromByte]
  | cons c more ih =>
    cases n with
    | zero => simp [fromByte]
    | succ n =>
      have wide := c.utf8Size_pos
      simp only [fromByte, Option.ite_none_right_eq_some, ih]
      constructor
      · rintro ⟨within, front, rfl, bytes⟩
        refine ⟨c :: front, rfl, ?_⟩
        rw [String.utf8Len_cons]
        omega
      · rintro ⟨front, split, bytes⟩
        cases front with
        | nil => simp at bytes
        | cons d front =>
          obtain ⟨rfl, rfl⟩ := List.cons.inj split
          rw [String.utf8Len_cons] at bytes
          exact ⟨by omega, front, rfl, by omega⟩

theorem toByte_eq_some_iff :
    toByte n text = some front ↔ ∃ rest, text = front ++ rest ∧ utf8Len front = n := by
  induction text generalizing n front with
  | nil =>
    cases n with
    | zero =>
      simp only [toByte, Option.some.injEq, String.utf8Len_eq_zero]
      constructor
      · rintro rfl
        exact ⟨_, rfl, rfl⟩
      · rintro ⟨-, -, rfl⟩
        rfl
    | succ n =>
      simp only [toByte, reduceCtorEq, false_iff]
      rintro ⟨rest, split, bytes⟩
      obtain ⟨rfl, -⟩ := List.append_eq_nil_iff.mp split.symm
      simp at bytes
  | cons c more ih =>
    cases n with
    | zero =>
      simp only [toByte, Option.some.injEq, String.utf8Len_eq_zero]
      constructor
      · rintro rfl
        exact ⟨_, rfl, rfl⟩
      · rintro ⟨-, -, rfl⟩
        rfl
    | succ n =>
      -- A character is taken whole or not at all: an offset within it ends the search.
      have wide := c.utf8Size_pos
      simp only [toByte, Option.ite_none_right_eq_some, Option.map_eq_some_iff, ih]
      constructor
      · rintro ⟨within, front, ⟨rest, rfl, bytes⟩, rfl⟩
        refine ⟨rest, rfl, ?_⟩
        rw [String.utf8Len_cons]
        omega
      · rintro ⟨rest, split, bytes⟩
        cases front with
        | nil => simp at bytes
        | cons d front =>
          obtain ⟨rfl, rfl⟩ := List.cons.inj split
          rw [String.utf8Len_cons] at bytes
          exact ⟨by omega, front, ⟨rest, rfl, by omega⟩, rfl⟩

theorem cut_of_fits (first : Fits whole read) (last : Fits whole text) (shorter : utf8Len read ≤ utf8Len text) :
    ∃ part, cut whole (utf8Len read) (utf8Len text) = .ok part := by
  obtain ⟨front, rest, rfl, bytes⟩ := first
  obtain ⟨front', rest', split, bytes'⟩ := last
  have divided : fromByte (utf8Len read) (front ++ rest) = some rest :=
    fromByte_eq_some_iff.mpr ⟨front, rfl, bytes⟩
  -- Of two divisions of one text the first is within the second.
  have inner : ∃ part, rest = part ++ rest' ∧ utf8Len part = utf8Len text - utf8Len read := by
    rcases List.append_eq_append_iff.mp split with ⟨part, rfl, rfl⟩ | ⟨part, rfl, rfl⟩
    · refine ⟨part, rfl, ?_⟩
      rw [String.utf8Len_append] at bytes'
      omega
    · rw [String.utf8Len_append] at bytes
      have none : part = [] := String.utf8Len_eq_zero.mp (by omega)
      subst none
      exact ⟨[], rfl, by simp at bytes ⊢; omega⟩
  obtain ⟨part, rfl, size⟩ := inner
  have found : toByte (utf8Len text - utf8Len read) (part ++ rest') = some part :=
    toByte_eq_some_iff.mpr ⟨rest', rfl, size⟩
  refine ⟨part, ?_⟩
  rw [cut, divided, Option.bind_some, found]

theorem cut_of_unfit (unfit : ¬(Fits whole read ∧ Fits whole text)) (shorter : utf8Len read ≤ utf8Len text) :
    cut whole (utf8Len read) (utf8Len text) = .error .torn := by
  unfold cut
  split
  · rename_i part found
    obtain ⟨later, divided, within⟩ := Option.bind_eq_some_iff.mp found
    obtain ⟨front, rfl, bytes⟩ := fromByte_eq_some_iff.mp divided
    obtain ⟨rest, rfl, bytes'⟩ := toByte_eq_some_iff.mp within
    refine (unfit ⟨⟨front, _, rfl, bytes⟩, ⟨front ++ part, rest, by simp, ?_⟩⟩).elim
    rw [String.utf8Len_append]
    omega
  · rfl

theorem fits_nil (whole : List Char) : Fits whole [] := ⟨[], whole, rfl, rfl⟩

theorem cut_target_of_fits (fits : Fits whole text) : ∃ part, cut whole 0 (utf8Len text) = .ok part :=
  cut_of_fits (fits_nil whole) fits (Nat.zero_le _)

theorem cut_target_of_unfit (unfit : ¬Fits whole text) : cut whole 0 (utf8Len text) = .error .torn :=
  cut_of_unfit (fun fits : Fits whole [] ∧ _ => unfit fits.2) (Nat.zero_le _)

theorem cutFrom_cases (whole read : List Char) :
    (Fits whole read ∧ ∃ part, cutFrom whole (utf8Len read) = .ok part) ∨
    (¬Fits whole read ∧ cutFrom whole (utf8Len read) = .error .torn) := by
  unfold cutFrom
  split
  · rename_i part found
    obtain ⟨front, rfl, bytes⟩ := fromByte_eq_some_iff.mp found
    exact .inl ⟨⟨front, part, rfl, bytes⟩, part, rfl⟩
  · rename_i missing
    refine .inr ⟨?_, rfl⟩
    rintro ⟨front, rest, rfl, bytes⟩
    exact nomatch missing.symm.trans (fromByte_eq_some_iff.mpr ⟨front, rfl, bytes⟩)

theorem forall_mem_concat {p : Char → Prop} (before : ∀ x ∈ text, p x) (last : p c) : ∀ x ∈ text ++ [c], p x := by
  intro x member
  rcases List.mem_append.mp member with old | new
  · exact before x old
  · rw [List.mem_singleton.mp new]
    exact last

theorem utf8Len_sign (read : List Char) (narrow : c.utf8Size = 1) : utf8Len read + 1 = utf8Len (read ++ [c]) := by
  simp [narrow]

theorem utf8Len_eq_length (narrow : ∀ c ∈ text, c.toNat < 128) : utf8Len text = text.length := by
  induction text with
  | nil => rfl
  | cons c rest ih =>
    have one : c.utf8Size = 1 := by
      rw [Char.utf8Size_eq_one_iff, UInt32.le_iff_toNat_le]
      exact Nat.le_of_lt_succ (narrow c List.mem_cons_self)
    rw [String.utf8Len_cons, one, ih fun d member => narrow d (List.mem_cons_of_mem _ member), List.length_cons]

theorem trim_sublist (text : List Char) : (Text.trim text).Sublist text :=
  (List.reverse_sublist.mp (by
    rw [Text.trim, List.reverse_reverse]
    exact List.dropWhile_sublist _)).trans (List.dropWhile_sublist _)

theorem trim_initial (bare : ∀ c rest, text = c :: rest → Text.isBlank c = false) : Text.trim text <+: text := by
  have whole : text.dropWhile Text.isBlank = text := by
    cases text with
    | nil => rfl
    | cons c rest => simp [bare c rest rfl]
  rw [Text.trim, whole]
  exact List.rdropWhile_prefix _ _

end

/-- How far a directive has been read after its first characters. -/
inductive At [Patterns] (whole : List Char) : List Char → Stage → Prop
  | start : At whole [] .start
  | name {read : List Char} (name : IsName read) : At whole read (.levelOrTarget 0)
  | span {target span : List Char} (opens : Opens whole target) (plain : ∀ c ∈ span, c ≠ ']' ∧ c ≠ '\x7b') :
      At whole (target ++ '[' :: span) (.span (utf8Len (target ++ ['['])))
  | field {text field : List Char} (spanned : Spanned whole text) (plain : ∀ c ∈ field, c ≠ '\x7d') :
      At whole (text ++ '\x7b' :: field) (.field (utf8Len (text ++ ['\x7b'])))
  | fields {text : List Char} (fielded : Fielded whole text) : At whole text .fields
  | target {text : List Char} (closed : Spanned whole text ∨ Fielded whole text) :
      At whole (text ++ [']']) .target
  | level {head level : List Char} (headed : Headed whole head) :
      At whole (head ++ '=' :: level) (.level (utf8Len (head ++ ['='])))

section
variable [Patterns] {whole text read rest : List Char} {c : Char} {stage stage' : Stage} {d d' : Directive}

theorem readField_cases (part : List Char) : (∀ d, ∃ d', readField part d = .ok d') ∨
    ∃ defect, defect ≠ .torn ∧ ∀ d, readField part d = .error defect := by
  simp only [readField]
  generalize part.drop (part.takeWhile (· ≠ '=')).length = left
  cases left with
  | nil => exact .inl fun d => ⟨_, rfl⟩
  | cons sign value =>
    dsimp only
    by_cases plain : value.takeWhile (· ≠ '=') = "true".toList ∨ value.takeWhile (· ≠ '=') = "false".toList ∨
        Decimal.isFloatText (value.takeWhile (· ≠ '=')) = true
    · simp only [if_pos plain]
      exact .inl fun d => ⟨_, rfl⟩
    · simp only [if_neg plain]
      cases Patterns.refusal? (value.takeWhile (· ≠ '=')) with
      | none => exact .inl fun d => ⟨_, rfl⟩
      | some reason => exact .inr ⟨.field reason, nofun, fun d => rfl⟩

/-- What may become of a directive with one character more: the reader goes on, or tears it, or finds
another defect. -/
def Goes (whole read : List Char) (c : Char) (answer : Except Defect (Stage × Directive)) : Prop :=
  (∃ stage d, answer = .ok (stage, d) ∧ At whole (read ++ [c]) stage) ∨
    (answer = .error .torn ∧ ∀ rest, Tears whole (read ++ c :: rest)) ∨
    ∃ defect, answer = .error defect ∧ defect ≠ .torn

theorem Goes.on (there : At whole (read ++ [c]) stage) : Goes whole read c (.ok (stage, d)) :=
  .inl ⟨stage, d, rfl, there⟩

theorem Goes.directive : Goes whole read c (.error .directive) := .inr (.inr ⟨_, rfl, nofun⟩)

theorem At.advance_name (name : IsName read) (c : Char) (d : Directive) :
    Goes whole read c (advance whole (utf8Len read) c (.levelOrTarget 0, d)) := by
  simp only [Filter.advance]
  split
  · rename_i equals
    subst equals
    by_cases fits : Fits whole read
    · obtain ⟨part, found⟩ := cut_target_of_fits fits
      rw [found, utf8Len_sign (c := '=') read rfl]
      exact .on (.level (.target name fits))
    · rw [cut_target_of_unfit fits]
      exact .inr (.inl ⟨rfl, fun rest => .target name (.inl rfl) fits⟩)
  · split
    · rename_i bracket
      subst bracket
      by_cases fits : Fits whole read
      · obtain ⟨part, found⟩ := cut_target_of_fits fits
        rw [found, utf8Len_sign (c := '[') read rfl]
        exact .on (@At.span _ whole read [] (.inr ⟨name, fits⟩) nofun)
      · rw [cut_target_of_unfit fits]
        exact .inr (.inl ⟨rfl, fun rest => .target name (.inr rfl) fits⟩)
    · rename_i equals bracket
      refine .on (.name ?_)
      cases read with
      | nil => exact name.elim
      | cons first more => exact ⟨name.1, forall_mem_concat name.2 ⟨equals, bracket⟩⟩

theorem At.advance_span {target span : List Char} (opens : Opens whole target)
    (plain : ∀ c ∈ span, c ≠ ']' ∧ c ≠ '\x7b') (c : Char) (d : Directive) :
    Goes whole (target ++ '[' :: span) c
      (advance whole (utf8Len (target ++ '[' :: span)) c (.span (utf8Len (target ++ ['['])), d)) := by
  have shorter : utf8Len (target ++ ['[']) ≤ utf8Len (target ++ '[' :: span) := by simp
  simp only [Filter.advance]
  split
  · rename_i bracket
    subst bracket
    by_cases fits : Fits whole (target ++ ['[']) ∧ Fits whole (target ++ '[' :: span)
    · obtain ⟨part, found⟩ := cut_of_fits fits.1 fits.2 shorter
      rw [found]
      exact .on (.target (.inl (.mk opens plain fits.1 fits.2)))
    · rw [cut_of_unfit fits shorter]
      exact .inr (.inl ⟨rfl, fun rest => .span opens plain (.inl rfl) fits⟩)
  · split
    · rename_i brace
      subst brace
      by_cases fits : Fits whole (target ++ ['[']) ∧ Fits whole (target ++ '[' :: span)
      · obtain ⟨part, found⟩ := cut_of_fits fits.1 fits.2 shorter
        rw [found, utf8Len_sign (c := '\x7b') _ rfl]
        exact .on (@At.field _ whole _ [] (.mk opens plain fits.1 fits.2) nofun)
      · rw [cut_of_unfit fits shorter]
        exact .inr (.inl ⟨rfl, fun rest => .span opens plain (.inr rfl) fits⟩)
    · rename_i bracket brace
      refine .on ?_
      rw [List.append_assoc, List.cons_append]
      exact .span opens (forall_mem_concat plain ⟨bracket, brace⟩)

theorem At.advance_field {text field : List Char} (spanned : Spanned whole text)
    (plain : ∀ c ∈ field, c ≠ '\x7d') (c : Char) (d : Directive) :
    Goes whole (text ++ '\x7b' :: field) c
      (advance whole (utf8Len (text ++ '\x7b' :: field)) c (.field (utf8Len (text ++ ['\x7b'])), d)) := by
  have shorter : utf8Len (text ++ ['\x7b']) ≤ utf8Len (text ++ '\x7b' :: field) := by simp
  simp only [Filter.advance]
  split
  · rename_i brace
    subst brace
    by_cases fits : Fits whole (text ++ ['\x7b']) ∧ Fits whole (text ++ '\x7b' :: field)
    · obtain ⟨part, found⟩ := cut_of_fits fits.1 fits.2 shorter
      rw [found]
      dsimp only [bind, Except.bind]
      split
      · exact .directive
      · rename_i some
        rcases readField_cases part with readable | ⟨defect, other, unreadable⟩
        · obtain ⟨d', read⟩ := readable d
          rw [read]
          exact .on (.fields (.mk spanned plain ⟨part, found, by simpa using some, readable⟩))
        · rw [unreadable]
          exact .inr (.inr ⟨defect, rfl, other⟩)
    · rw [cut_of_unfit fits shorter]
      exact .inr (.inl ⟨rfl, fun rest => .field spanned plain fits⟩)
  · rename_i brace
    refine .on ?_
    rw [List.append_assoc, List.cons_append]
    exact .field spanned (forall_mem_concat plain brace)

theorem At.advance (reached : At whole read stage) (c : Char) (d : Directive) :
    Goes whole read c (advance whole (utf8Len read) c (stage, d)) := by
  cases reached with
  | start =>
    simp only [Filter.advance]
    split
    · rename_i bracket
      subst bracket
      exact .on (@At.span _ whole [] [] (.inl rfl) nofun)
    · split
      · rename_i first
        exact .on (.name ⟨first, nofun⟩)
      · exact .directive
  | name name => exact At.advance_name name c d
  | span opens plain => exact At.advance_span opens plain c d
  | field spanned plain => exact At.advance_field spanned plain c d
  | fields fielded =>
    simp only [Filter.advance]
    split
    · rename_i bracket
      subst bracket
      exact .on (.target (.inr fielded))
    · exact .directive
  | @target text closed =>
    simp only [Filter.advance]
    split
    · rename_i equals
      subst equals
      rw [utf8Len_sign (c := '=') _ rfl]
      exact .on (.level (closed.elim .span .field))
    · exact .directive
  | @level head level headed =>
    refine .on ?_
    rw [List.append_assoc, List.cons_append]
    exact .level headed

theorem At.advanceAll (reached : At whole read stage) (text : List Char) (d : Directive) :
    (∃ stage' d', advanceAll whole (utf8Len read) text (stage, d) = .ok (stage', d') ∧
      At whole (read ++ text) stage') ∨
    (advanceAll whole (utf8Len read) text (stage, d) = .error .torn ∧ Tears whole (read ++ text)) ∨
    ∃ defect, advanceAll whole (utf8Len read) text (stage, d) = .error defect ∧ defect ≠ .torn := by
  induction text generalizing read stage d with
  | nil => exact .inl ⟨stage, d, rfl, by rwa [List.append_nil]⟩
  | cons c rest ih =>
    rcases reached.advance c d with ⟨stage', d', gone, there⟩ | ⟨torn, tears⟩ | ⟨defect, found, other⟩
    · have later := ih there d'
      rw [List.append_assoc, List.singleton_append, String.utf8Len_append] at later
      simpa only [Filter.advanceAll, gone, bind, Except.bind, String.utf8Len_cons, String.utf8Len_nil,
        Nat.zero_add] using later
    · exact .inr (.inl ⟨by simp only [Filter.advanceAll, torn, bind, Except.bind], tears rest⟩)
    · exact .inr (.inr ⟨defect, by simp only [Filter.advanceAll, found, bind, Except.bind], other⟩)

theorem At.close (reached : At whole text stage) (torn : close whole (stage, d) = .error .torn) :
    Tears whole text := by
  -- Where no level is under way there is nothing left to cut out.
  cases reached with
  | start => cases torn
  | span => cases torn
  | field => cases torn
  | fields => cases torn
  | target => cases torn
  | name =>
    rcases cutFrom_cases whole [] with ⟨-, part, found⟩ | ⟨unfit, -⟩
    · rw [String.utf8Len_nil] at found
      simp only [Filter.close, found, bind, Except.bind] at torn
      split at torn <;> cases torn
    · exact (unfit (fits_nil whole)).elim
  | @level head level headed =>
    rcases cutFrom_cases whole (head ++ ['=']) with ⟨-, part, found⟩ | ⟨unfit, -⟩
    · simp only [Filter.close, found, bind, Except.bind] at torn
      split at torn <;> cases torn
    · exact .level headed unfit

theorem tears_of_torn (torn : readDirective text = .error .torn) : Tears text (Text.trim text) := by
  unfold readDirective at torn
  rcases At.start.advanceAll (Text.trim text) {} with ⟨stage, d, gone, there⟩ | ⟨-, tears⟩ | ⟨defect, found, other⟩
  · rw [String.utf8Len_nil] at gone
    rw [gone] at torn
    exact there.close torn
  · exact tears
  · rw [String.utf8Len_nil] at found
    rw [found] at torn
    exact (other (Except.error.inj torn)).elim

/-- The reader comes as far as that, having read so much. -/
def Reached (whole read : List Char) (stage : Stage) : Prop :=
  ∃ d, advanceAll whole 0 read (.start, {}) = .ok (stage, d)

theorem advanceAll_append (offset : Nat) (text more : List Char) (state : Stage × Directive) :
    advanceAll whole offset (text ++ more) state =
      (advanceAll whole offset text state).bind fun state =>
        advanceAll whole (offset + utf8Len text) more state := by
  induction text generalizing offset state with
  | nil => rfl
  | cons c rest ih =>
    simp only [List.cons_append, advanceAll, bind, Except.bind]
    cases advance whole offset c state with
    | error defect => rfl
    | ok state =>
      simp only [ih, Except.bind, String.utf8Len_cons, Nat.add_assoc, Nat.add_comm c.utf8Size]

theorem advanceAll_stays (stays : ∀ c ∈ text, ∀ offset, advance whole offset c (stage, d) = .ok (stage, d))
    (offset : Nat) : advanceAll whole offset text (stage, d) = .ok (stage, d) := by
  induction text generalizing offset with
  | nil => rfl
  | cons c rest ih =>
    simp only [advanceAll, stays c List.mem_cons_self, bind, Except.bind]
    exact ih (fun c member => stays c (List.mem_cons_of_mem _ member)) _

theorem Reached.append {more : List Char} (reached : Reached whole read stage)
    (run : ∀ d, ∃ d', advanceAll whole (utf8Len read) more (stage, d) = .ok (stage', d')) :
    Reached whole (read ++ more) stage' := by
  obtain ⟨d, before⟩ := reached
  obtain ⟨d', after⟩ := run d
  refine ⟨d', ?_⟩
  rw [advanceAll_append, before]
  simpa only [Except.bind, Nat.zero_add] using after

theorem Reached.torn (reached : Reached whole read stage)
    (torn : ∀ d, advance whole (utf8Len read) c (stage, d) = .error .torn) (rest : List Char) :
    advanceAll whole 0 (read ++ c :: rest) (.start, {}) = .error .torn := by
  obtain ⟨d, before⟩ := reached
  rw [advanceAll_append, before]
  simp only [Except.bind, Nat.zero_add, advanceAll, torn d, bind]

theorem IsName.reached (name : IsName read) : Reached whole read (.levelOrTarget 0) := by
  cases read with
  | nil => exact name.elim
  | cons c more =>
    obtain ⟨first, plain⟩ := name
    have bracket : c ≠ '[' := by
      rintro rfl
      have letter : Text.isAlphanumeric '[' = false := by decide +kernel
      simp [letter] at first
    refine ⟨{}, ?_⟩
    simp only [advanceAll, advance, if_neg bracket, if_pos first, bind, Except.bind]
    apply advanceAll_stays
    intro d member offset
    simp only [advance, if_neg (plain d member).1, if_neg (plain d member).2]

theorem Opens.reached {target span : List Char} (opens : Opens whole target)
    (plain : ∀ c ∈ span, c ≠ ']' ∧ c ≠ '\x7b') :
    Reached whole (target ++ '[' :: span) (.span (utf8Len (target ++ ['[']))) := by
  have stays (d : Directive) (start offset : Nat) :
      advanceAll whole offset span (.span start, d) = .ok (.span start, d) := by
    apply advanceAll_stays
    intro c member offset
    simp only [advance, if_neg (plain c member).1, if_neg (plain c member).2]
  rcases opens with rfl | ⟨name, fits⟩
  · exact ⟨{}, stays {} 1 1⟩
  · refine name.reached.append fun d => ?_
    obtain ⟨part, found⟩ := cut_target_of_fits fits
    simp only [advanceAll, advance, found, bind, Except.bind]
    rw [← utf8Len_sign (c := '[') target rfl]
    exact ⟨_, stays _ _ _⟩

theorem Spanned.reached (spanned : Spanned whole text) :
    ∃ start part, Reached whole text (.span start) ∧ cut whole start (utf8Len text) = .ok part := by
  cases spanned with
  | @mk target span opens plain first last =>
    obtain ⟨part, found⟩ := cut_of_fits first last (by simp)
    exact ⟨_, part, opens.reached plain, found⟩

theorem Spanned.reached_field {field : List Char} (spanned : Spanned whole text)
    (plain : ∀ c ∈ field, c ≠ '\x7d') :
    Reached whole (text ++ '\x7b' :: field) (.field (utf8Len (text ++ ['\x7b']))) := by
  obtain ⟨start, part, reached, found⟩ := spanned.reached
  refine reached.append fun d => ?_
  simp only [advanceAll, advance, found, bind, Except.bind]
  rw [← utf8Len_sign (c := '\x7b') text rfl]
  refine ⟨_, advanceAll_stays ?_ _⟩
  intro c member offset
  simp only [advance, if_neg (plain c member)]

theorem Fielded.reached (fielded : Fielded whole text) : Reached whole text .fields := by
  cases fielded with
  | @mk text field spanned plain read =>
    obtain ⟨part, found, some, readable⟩ := read
    refine (spanned.reached_field plain).append fun d => ?_
    obtain ⟨d', read⟩ := readable d
    have full : part.isEmpty = false := List.isEmpty_eq_false_iff.mpr some
    refine ⟨d', ?_⟩
    simp only [advanceAll, advance, found, bind, Except.bind, full, Bool.false_eq_true, if_false, if_true, read,
      pure, Except.pure]

theorem Headed.reached {head : List Char} (headed : Headed whole head) (level : List Char) :
    Reached whole (head ++ '=' :: level) (.level (utf8Len (head ++ ['=']))) := by
  have stays (d : Directive) (start offset : Nat) :
      advanceAll whole offset level (.level start, d) = .ok (.level start, d) :=
    advanceAll_stays (fun c member offset => rfl) offset
  have closed (there : Reached whole head .target) :
      Reached whole (head ++ '=' :: level) (.level (utf8Len (head ++ ['=']))) := by
    refine there.append fun d => ⟨d, ?_⟩
    simp only [advanceAll, advance, if_true, bind, Except.bind]
    rw [← utf8Len_sign (c := '=') head rfl]
    exact stays _ _ _
  cases headed with
  | target name fits =>
    refine name.reached.append fun d => ?_
    obtain ⟨part, found⟩ := cut_target_of_fits fits
    simp only [advanceAll, advance, found, bind, Except.bind, if_true]
    rw [← utf8Len_sign (c := '=') head rfl]
    exact ⟨_, stays _ _ _⟩
  | span spanned =>
    obtain ⟨start, part, reached, found⟩ := spanned.reached
    refine closed (reached.append fun d => ⟨{ d with span := some (String.ofList part) }, ?_⟩)
    simp only [advanceAll, advance, found, bind, Except.bind, if_true, pure, Except.pure]
  | field fielded =>
    refine closed (fielded.reached.append fun d => ⟨d, ?_⟩)
    simp only [advanceAll, advance, bind, Except.bind, if_true]

theorem torn_of_tears (tears : Tears text (Text.trim text)) : readDirective text = .error .torn := by
  unfold readDirective
  generalize Text.trim text = trimmed at tears
  cases tears with
  | @target target rest c name ends torn =>
    have found := cut_target_of_unfit torn
    rw [name.reached.torn ?_ rest]
    · rfl
    · intro d
      rcases ends with rfl | rfl
      · simp only [advance, found, bind, Except.bind, if_true]
      · simp only [advance, found, bind, Except.bind, if_true]
        rfl
  | @span target span rest c opens plain ends torn =>
    have found := cut_of_unfit torn (by simp)
    rw [(opens.reached plain).torn ?_ rest]
    · rfl
    · intro d
      rcases ends with rfl | rfl
      · simp only [advance, found, bind, Except.bind, if_true]
      · simp only [advance, found, bind, Except.bind, if_true]
        rfl
  | @field text field rest spanned plain torn =>
    have found := cut_of_unfit torn (by simp)
    rw [(spanned.reached_field plain).torn ?_ rest]
    · rfl
    · intro d
      simp only [advance, found, bind, Except.bind, if_true]
  | @level head level headed torn =>
    obtain ⟨d, reached⟩ := headed.reached level
    rw [reached]
    rcases cutFrom_cases text (head ++ ['=']) with ⟨fits, -⟩ | ⟨-, found⟩
    · exact (torn fits).elim
    · simp only [Except.bind, close, found, bind]

theorem Tears.unfit (tears : Tears whole text) : ∃ read, read <+: text ∧ ¬Fits whole read := by
  cases tears with
  | @target target rest c name ends torn => exact ⟨target, List.prefix_append _ _, torn⟩
  | @span target span rest c opens plain ends torn =>
    rcases not_and_or.mp torn with torn | torn
    · exact ⟨target ++ ['['], ⟨span ++ c :: rest, by simp⟩, torn⟩
    · exact ⟨target ++ '[' :: span, List.prefix_append _ _, torn⟩
  | @field text field rest spanned plain torn =>
    rcases not_and_or.mp torn with torn | torn
    · exact ⟨text ++ ['\x7b'], ⟨field ++ '\x7d' :: rest, by simp⟩, torn⟩
    · exact ⟨text ++ '\x7b' :: field, List.prefix_append _ _, torn⟩
  | @level head level headed torn => exact ⟨head ++ ['='], ⟨level, by simp⟩, torn⟩

/-- Only a directive with a blank in front and with a character of several bytes can be torn. -/
theorem Tears.padded (tears : Tears text (Text.trim text)) :
    (∃ c rest, text = c :: rest ∧ Text.isBlank c = true) ∧ ∃ c ∈ text, 128 ≤ c.toNat := by
  obtain ⟨read, front, unfit⟩ := tears.unfit
  -- What was read is an offset into the text if nothing was trimmed before it, and also if all is one byte wide.
  constructor
  · by_contra bare
    push Not at bare
    obtain ⟨rest, split⟩ := front.trans (trim_initial fun c rest split => by simpa using bare c rest split)
    exact unfit ⟨read, rest, split.symm, rfl⟩
  · by_contra narrow
    push Not at narrow
    have part := front.sublist.trans (trim_sublist text)
    have bytes := utf8Len_eq_length fun c member => narrow c (part.subset member)
    have bytes' : utf8Len (text.take read.length) = (text.take read.length).length :=
      utf8Len_eq_length fun c member => narrow c (List.mem_of_mem_take member)
    refine unfit ⟨text.take read.length, text.drop read.length, (List.take_append_drop _ _).symm, ?_⟩
    rw [bytes, bytes', List.length_take, Nat.min_eq_left part.length_le]

/-- A piece of a filter is torn, and those before it are directives. -/
def Torn (text : String) : Prop :=
  ∃ before piece after, ((pieces text.toList).filter fun part => !part.isEmpty) = before ++ piece :: after ∧
    (∀ part ∈ before, ∃ d, readDirective part = .ok d) ∧ Tears piece (Text.trim piece)

theorem mapM_eq_error_iff {parts : List (List Char)} {defect : Defect} :
    parts.mapM readDirective = .error defect ↔ ∃ before piece after, parts = before ++ piece :: after ∧
      (∀ part ∈ before, ∃ d, readDirective part = .ok d) ∧ readDirective piece = .error defect := by
  induction parts with
  | nil => simp [pure, Except.pure]
  | cons part rest ih =>
    rw [List.mapM_cons]
    constructor
    · intro failed
      cases found : readDirective part with
      | error other =>
        rw [found] at failed
        exact ⟨[], part, rest, rfl, nofun, found.trans (congrArg _ (Except.error.inj failed))⟩
      | ok d =>
        rw [found] at failed
        have later : rest.mapM readDirective = .error defect := by
          cases ran : rest.mapM readDirective with
          | error other =>
            rw [ran] at failed
            exact congrArg _ (Except.error.inj failed)
          | ok directives =>
            rw [ran] at failed
            cases failed
        obtain ⟨before, piece, after, rfl, fine, torn⟩ := ih.mp later
        exact ⟨part :: before, piece, after, rfl, List.forall_mem_cons.mpr ⟨⟨d, found⟩, fine⟩, torn⟩
    · rintro ⟨before, piece, after, split, fine, failed⟩
      cases before with
      | nil =>
        obtain ⟨rfl, rfl⟩ := List.cons.inj split
        rw [failed]
        rfl
      | cons first before =>
        obtain ⟨rfl, rfl⟩ := List.cons.inj split
        obtain ⟨d, found⟩ := fine part List.mem_cons_self
        have later := ih.mpr ⟨before, piece, after, rfl, fun x member => fine x (List.mem_cons_of_mem _ member), failed⟩
        rw [found]
        simp only [bind, Except.bind, later]

theorem parse_eq_torn_iff (text : String) : parse text = .error .torn ↔ Torn text := by
  have same (piece : List Char) : readDirective piece = .error .torn ↔ Tears piece (Text.trim piece) :=
    ⟨tears_of_torn, torn_of_tears⟩
  unfold parse readDirectives Torn
  simp only [← same, ← mapM_eq_error_iff]
  cases List.mapM readDirective _ with
  | ok directives => exact iff_of_false nofun nofun
  | error defect => simp [Except.map]

end

end FrameHost.Log.Filter
