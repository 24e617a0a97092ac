import Mathlib.Data.List.TakeWhile
import FrameHost.Message.Reading
import FrameHost.Message.Writing
import FrameHost.Proofs.Document

/-! What is written as a message can be read from it.

A part of a message is read whatever stands behind it, as long as no digit or sign goes on there that could
belong to a number. From the parts this carries over to lists and tables, level by level. -/

set_option autoImplicit false

namespace FrameHost.Message

/-- Behind a part nothing goes on that could belong to a number. -/
def Stops (rest : List Char) : Prop := ∀ c ∈ rest.head?, isNumeralChar c = false

/-- A text from which something is read, whatever stands behind it, and which no blank and no closing mark
stands in front of. -/
structure Reads {α : Type} (part : Scan α) (text : List Char) (x : α) : Prop where
  opens : ∃ c more, text = c :: more ∧ isBlank c = false ∧ c ≠ ']' ∧ c ≠ '\x7d'
  reads : ∀ rest, Stops rest → part (text ++ rest) = some (x, rest)

/-! Texts between quotes. -/

theorem digit?_digitChar : ∀ d < 16, Text.digit? 16 (Nat.digitChar d) = some d := by
  decide

theorem numbered_control {n : Nat} (small : n < 32) (rest : List Char) :
    numbered ('0' :: '0' :: Nat.digitChar (n / 16) :: Nat.digitChar (n % 16) :: rest) = some (Char.ofNat n, rest) := by
  have high := digit?_digitChar (n / 16) (by omega)
  have low := digit?_digitChar (n % 16) (by omega)
  have zero : Text.digit? 16 '0' = some 0 := rfl
  have unit : codeUnit ('0' :: '0' :: Nat.digitChar (n / 16) :: Nat.digitChar (n % 16) :: rest) = some (n, rest) := by
    simp [codeUnit, high, low, zero, Nat.div_add_mod]
  unfold numbered
  rw [unit]
  simp only [Option.bind_eq_bind, Option.bind_some]
  rw [if_neg (by omega), if_neg (by omega)]

theorem literalChar_append (c : Char) (rest : List Char) :
    literalChar (Text.literalChar c ++ rest) = some (c, rest) := by
  unfold Text.literalChar
  split_ifs with h₁ h₂ h₃ h₄ h₅ h₆ h₇ small
  iterate 7 subst c; rfl
  · have control := numbered_control small rest
    rw [Char.ofNat_toNat] at control
    exact control
  · simp [literalChar, small]

theorem exists_literalChar (c : Char) : ∃ a more, Text.literalChar c = a :: more ∧ a ≠ '"' := by
  unfold Text.literalChar
  split_ifs with quote
  iterate 8 exact ⟨_, _, rfl, by decide⟩
  exact ⟨c, [], rfl, quote⟩

theorem literalRest_cons {a : Char} (other : a ≠ '"') (fuel : Nat) (text : List Char) :
    literalRest (fuel + 1) (a :: text) = do
      let (c, rest) ← literalChar (a :: text)
      let (more, rest) ← literalRest fuel rest
      return (c :: more, rest) := by
  rw [literalRest]
  rintro rest ⟨⟩
  exact other rfl

theorem literalRest_append (chars rest : List Char) {fuel : Nat} (enough : chars.length < fuel) :
    literalRest fuel (chars.flatMap Text.literalChar ++ '"' :: rest) = some (chars, rest) := by
  induction chars generalizing fuel with
  | nil =>
    obtain ⟨fuel, rfl⟩ := Nat.exists_eq_succ_of_ne_zero (Nat.ne_zero_of_lt enough)
    rfl
  | cons c more ih =>
    obtain ⟨fuel, rfl⟩ := Nat.exists_eq_succ_of_ne_zero (Nat.ne_zero_of_lt enough)
    obtain ⟨a, tail, form, other⟩ := exists_literalChar c
    have first := literalChar_append c (more.flatMap Text.literalChar ++ '"' :: rest)
    rw [List.flatMap_cons, List.append_assoc]
    rw [form, List.cons_append] at first ⊢
    rw [literalRest_cons other, first, Option.bind_eq_bind, Option.bind_some]
    simp only [ih (Nat.lt_of_succ_lt_succ enough)]
    rfl

theorem length_le_flatMap (chars : List Char) : chars.length ≤ (chars.flatMap Text.literalChar).length := by
  induction chars with
  | nil => exact Nat.le_refl 0
  | cons c more ih =>
    obtain ⟨a, tail, form, -⟩ := exists_literalChar c
    rw [List.flatMap_cons, form, List.length_append, List.length_cons, List.length_cons]
    omega

theorem literal_append (s : String) (rest : List Char) :
    literal (s.toList.flatMap Text.literalChar ++ '"' :: rest) = some (s, rest) := by
  have enough : s.toList.length < (s.toList.flatMap Text.literalChar ++ '"' :: rest).length + 1 := by
    have longer := length_le_flatMap s.toList
    rw [List.length_append]
    omega
  unfold literal
  rw [literalRest_append _ _ enough]
  simp

/-! Counts. -/

theorem toDigits_digits (n : Nat) : ∀ c ∈ Nat.toDigits 10 n, Decimal.isDigit c = true := by
  intro c member
  have digit := Nat.isDigit_of_mem_toDigits (by decide) (by decide) member
  simpa [Char.isDigit, Decimal.isDigit, Char.le_def] using digit

theorem head?_toDigits (n : Nat) (positive : 0 < n) : (Nat.toDigits 10 n).head? ≠ some '0' := by
  induction n using Nat.strongRecOn with
  | ind n ih =>
    rw [Nat.toDigits_eq_if (by decide)]
    split
    · rename_i small
      simpa using positive.ne'
    · rename_i large
      rw [List.head?_append_of_ne_nil _ Nat.toDigits_ne_nil]
      exact ih (n / 10) (by omega) (by omega)

theorem naturalOf_toDigits (n : Nat) : Decimal.naturalOf (Nat.toDigits 10 n) = n :=
  Nat.ofDigitChars_eq_foldl.symm.trans Nat.ofDigitChars_ten_toDigits

section
variable {row rest : List Char}

theorem takeWhile_stops (digits : ∀ c ∈ row, Decimal.isDigit c = true) (stops : Stops rest) :
    (row ++ rest).takeWhile isNumeralChar = row ∧ (row ++ rest).dropWhile isNumeralChar = rest := by
  have numeral : ∀ c ∈ row, isNumeralChar c = true := fun c member => by simp [isNumeralChar, digits c member]
  rw [List.takeWhile_append_of_pos numeral, List.dropWhile_append_of_pos numeral]
  cases rest with
  | nil => simp
  | cons c more =>
    have other : isNumeralChar c = false := stops c rfl
    simp [other]

theorem parse?_of_digits (digits : ∀ c ∈ row, Decimal.isDigit c = true) (some_ : row ≠ []) :
    Decimal.Numeral.parse? row = some { negative := false, whole := row, fraction := [], power := 0 } := by
  have whole : row.takeWhile Decimal.isDigit = row := List.takeWhile_eq_self_iff.mpr digits
  have none_ : row.dropWhile Decimal.isDigit = [] := List.dropWhile_eq_nil_iff.mpr digits
  have unsigned : Decimal.splitSign row = (false, row) := by
    unfold Decimal.splitSign
    split
    · cases digits _ List.mem_cons_self
    · cases digits _ List.mem_cons_self
    · rfl
  simp [Decimal.Numeral.parse?, unsigned, whole, none_, Decimal.exponent?, some_]

theorem isNumeral_of_digits (digits : ∀ c ∈ row, Decimal.isDigit c = true) (some_ : row ≠ [])
    (plain : row = ['0'] ∨ row.head? ≠ some '0') : isNumeral row = true := by
  have whole : row.takeWhile Decimal.isDigit = row := List.takeWhile_eq_self_iff.mpr digits
  have none_ : row.dropWhile Decimal.isDigit = [] := List.dropWhile_eq_nil_iff.mpr digits
  unfold isNumeral
  split
  · cases digits _ List.mem_cons_self
  · simpa [whole, none_, some_] using plain

end

theorem ofNumeral?_toDigits {n : Nat} (small : n < UInt64.size) :
    Document.ofNumeral? (String.ofList (Nat.toDigits 10 n)) = some (.integer n) := by
  have digits := toDigits_digits n
  have fits : (n : Int) < UInt64.size := by exact_mod_cast small
  simpa [Document.ofNumeral?, parse?_of_digits digits Nat.toDigits_ne_nil, naturalOf_toDigits]
    using And.intro digits fits

theorem numeral_append {n : Nat} (small : n < UInt64.size) {rest : List Char} (stops : Stops rest) :
    numeral (Nat.toDigits 10 n ++ rest) = some (.integer n, rest) := by
  have digits := toDigits_digits n
  obtain ⟨row, left⟩ := takeWhile_stops digits stops
  have plain : Nat.toDigits 10 n = ['0'] ∨ (Nat.toDigits 10 n).head? ≠ some '0' := by
    rcases Nat.eq_zero_or_pos n with rfl | positive
    · exact .inl (Nat.toDigits_zero 10)
    · exact .inr (head?_toDigits n positive)
  unfold numeral
  simp only [row, left, isNumeral_of_digits digits Nat.toDigits_ne_nil plain, ofNumeral?_toDigits small, if_true]

/-! Lists and tables of parts. -/

theorem skipBlanks_cons {c : Char} (mark : isBlank c = false) (rest : List Char) :
    skipBlanks (c :: rest) = c :: rest := by
  simp [skipBlanks, mark]

section
variable {α : Type} {part : Scan α} {text rest : List Char} {x : α} {texts : List (List Char)} {xs : List α}
  {close : Char}

theorem Reads.skipBlanks (reads : Reads part text x) (rest : List Char) : skipBlanks (text ++ rest) = text ++ rest := by
  obtain ⟨c, more, rfl, mark, -⟩ := reads.opens
  exact skipBlanks_cons mark _

theorem length_le_intercalate (all : List.Forall₂ (Reads part) texts xs) :
    texts.length ≤ ([','].intercalate texts).length := by
  induction all with
  | nil => exact Nat.le_refl 0
  | @cons text x texts xs first later ih =>
    obtain ⟨c, more, rfl, -⟩ := first.opens
    cases texts with
    | nil => simp [List.intercalate]
    | cons next texts =>
      rw [List.intercalate_cons_cons]
      simp only [List.length_append, List.length_cons, List.length_nil] at ih ⊢
      omega

theorem parts_append (all : List.Forall₂ (Reads part) texts xs) (some_ : texts ≠ [])
    (mark : close = ']' ∨ close = '\x7d') {fuel : Nat} (enough : texts.length ≤ fuel) (rest : List Char) :
    parts part close fuel ([','].intercalate texts ++ close :: rest) = some (xs, rest) := by
  have stops : Stops (close :: rest) := by
    rcases mark with rfl | rfl <;> rintro c ⟨⟩ <;> rfl
  have marked : isBlank close = false := by
    rcases mark with rfl | rfl <;> rfl
  induction all generalizing fuel with
  | nil => exact (some_ rfl).elim
  | @cons text x texts xs first later ih =>
    obtain ⟨fuel, rfl⟩ := Nat.exists_eq_succ_of_ne_zero (Nat.ne_zero_of_lt enough)
    cases later with
    | nil =>
      rw [List.intercalate_singleton, parts, first.skipBlanks, first.reads _ stops]
      simp only [Option.bind_eq_bind, Option.bind_some, skipBlanks_cons marked]
      rcases mark with rfl | rfl <;> rfl
    | @cons next y texts ys second later =>
      have tail := ih (List.cons_ne_nil _ _) (Nat.le_of_succ_le_succ enough)
      have comma : Stops (',' :: ([','].intercalate (next :: texts) ++ close :: rest)) := by
        rintro c ⟨⟩
        rfl
      rw [List.intercalate_cons_cons, List.append_assoc, List.append_assoc, parts]
      rw [first.skipBlanks, List.singleton_append, first.reads _ comma]
      simp only [Option.bind_eq_bind, Option.bind_some, skipBlanks_cons (c := ',') rfl, if_true, tail]
      rfl

theorem intercalate_opens {texts : List (List Char)} (reads : Reads part text x) :
    ∃ c more, [','].intercalate (text :: texts) = c :: more ∧ isBlank c = false ∧ c ≠ ']' ∧ c ≠ '\x7d' := by
  obtain ⟨c, more, rfl, opens⟩ := reads.opens
  cases texts with
  | nil => exact ⟨c, more, by simp [List.intercalate], opens⟩
  | cons next texts => exact ⟨c, _, by rw [List.intercalate_cons_cons]; rfl, opens⟩

theorem enclosed_append (all : List.Forall₂ (Reads part) texts xs) (mark : close = ']' ∨ close = '\x7d')
    (rest : List Char) : enclosed part close ([','].intercalate texts ++ close :: rest) = some (xs, rest) := by
  cases all with
  | nil =>
    have marked : isBlank close = false := by
      rcases mark with rfl | rfl <;> rfl
    simp [enclosed, List.intercalate, skipBlanks_cons marked]
  | @cons text x texts xs first later =>
    obtain ⟨c, more, front, blank, list, table⟩ := intercalate_opens first
    have length := length_le_intercalate (.cons first later)
    have enough : (text :: texts).length ≤ ([','].intercalate (text :: texts) ++ close :: rest).length := by
      rw [List.length_append]
      omega
    have read := parts_append (.cons first later) (List.cons_ne_nil _ _) mark enough rest
    rw [front, List.cons_append] at read ⊢
    have other : c ≠ close := by
      rcases mark with rfl | rfl
      · exact list
      · exact table
    unfold enclosed
    rw [skipBlanks_cons blank]
    simp only [if_neg other]
    exact read

end

theorem toList_literal (s : String) :
    (Text.literal s).toList = '"' :: (s.toList.flatMap Text.literalChar ++ ['"']) := by
  simp [Text.literal]

theorem scalar_of_digits {n : Nat} (rest : List Char) :
    scalar (Nat.toDigits 10 n ++ rest) = numeral (Nat.toDigits 10 n ++ rest) := by
  cases row : Nat.toDigits 10 n with
  | nil => exact (Nat.toDigits_ne_nil row).elim
  | cons c more =>
    have digit := toDigits_digits n c (by simp [row])
    rw [List.cons_append]
    have apart : ∀ a, Decimal.isDigit a = false → ∀ tail, c :: (more ++ rest) ≠ a :: tail := by
      rintro a letter tail ⟨⟩
      rw [digit] at letter
      cases letter
    unfold scalar
    split
    · exact (apart '"' rfl _ ‹_›).elim
    · exact (apart 'n' rfl _ ‹_›).elim
    · exact (apart 't' rfl _ ‹_›).elim
    · exact (apart 'f' rfl _ ‹_›).elim
    · rfl

theorem value_eq_scalar {c : Char} (list : c ≠ '[') (table : c ≠ '\x7b') (depth : Nat) (rest : List Char) :
    value depth (c :: rest) = scalar (c :: rest) := by
  have apart : ∀ tail, c :: rest ≠ '[' :: tail ∧ c :: rest ≠ '\x7b' :: tail :=
    fun tail => ⟨fun same => list (List.cons.inj same).1, fun same => table (List.cons.inj same).1⟩
  cases depth with
  | zero =>
    unfold value
    split
    · exact ((apart _).1 ‹_›).elim
    · exact ((apart _).2 ‹_›).elim
    · rfl
  | succ depth =>
    unfold value
    split
    · exact ((apart _).1 ‹_›).elim
    · exact ((apart _).2 ‹_›).elim
    · rfl

theorem Reads.member {part : Scan Document} {text : List Char} {d : Document} (reads : Reads part text d)
    (key : String) : Reads (member part) ((Text.literal key).toList ++ ':' :: text) (key, d) where
  opens := ⟨'"', _, by rw [toList_literal]; rfl, rfl, by decide, by decide⟩
  reads rest stops := by
    have name := literal_append key (':' :: (text ++ rest))
    rw [toList_literal]
    simp only [List.cons_append, List.append_assoc, List.nil_append, Message.member]
    simp only [name, Option.bind_eq_bind, Option.bind_some, skipBlanks_cons (c := ':') rfl, reads.skipBlanks,
      reads.reads rest stops]
    rfl

/-! Whole documents. -/

/-- Documents with no numbers but counts that fit a word, and with keys that differ within each table. Lists
and tables stand inside one another up to a depth. -/
inductive Plain : Nat → Document → Prop where
  | null {depth : Nat} : Plain depth .null
  | boolean {depth : Nat} (b : Bool) : Plain depth (.boolean b)
  | count {depth n : Nat} (small : n < UInt64.size) : Plain depth (.integer n)
  | text {depth : Nat} (s : String) : Plain depth (.text s)
  | list {depth : Nat} {items : List Document} (plain : ∀ d ∈ items, Plain depth d) : Plain (depth + 1) (.list items)
  | table {depth : Nat} {entries : List (String × Document)} (distinct : (entries.map Prod.fst).Nodup)
      (plain : ∀ entry ∈ entries, Plain depth entry.2) : Plain (depth + 1) (.table entries)

/-- A document has a message, from which a document like it is read. -/
def Kept (part : Scan Document) (d : Document) : Prop :=
  ∃ s d', write? d = some s ∧ d.Alike d' ∧ Reads part s.toList d'

section
variable {part : Scan Document} {items : List Document} {entries : List (String × Document)}

theorem writeItems_kept (kept : ∀ d ∈ items, Kept part d) :
    ∃ written items', writeItems? items = some written ∧ List.Forall₂ Document.Alike items items' ∧
      List.Forall₂ (Reads part) (written.map String.toList) items' := by
  induction items with
  | nil => exact ⟨[], [], rfl, .nil, .nil⟩
  | cons d rest ih =>
    obtain ⟨s, d', first, alike, reads⟩ := kept d List.mem_cons_self
    obtain ⟨written, items', later, likes, all⟩ := ih fun d there => kept d (List.mem_cons_of_mem _ there)
    exact ⟨s :: written, d' :: items', by simp [writeItems?, first, later], .cons alike likes, .cons reads all⟩

def memberText (m : String × String) : List Char := (Text.literal m.1).toList ++ ':' :: m.2.toList

theorem writeEntries_kept (kept : ∀ entry ∈ entries, Kept part entry.2) :
    ∃ written entries', writeEntries? entries = some written ∧ entries.map Prod.fst = entries'.map Prod.fst ∧
      List.Forall₂ Document.Alike (entries.map Prod.snd) (entries'.map Prod.snd) ∧
      List.Forall₂ (Reads (member part)) (written.map memberText) entries' := by
  induction entries with
  | nil => exact ⟨[], [], rfl, rfl, .nil, .nil⟩
  | cons entry rest ih =>
    obtain ⟨key, d⟩ := entry
    obtain ⟨s, d', first, alike, reads⟩ := kept (key, d) List.mem_cons_self
    obtain ⟨written, entries', later, keys, likes, all⟩ :=
      ih fun entry there => kept entry (List.mem_cons_of_mem _ there)
    refine ⟨(key, s) :: written, (key, d') :: entries', ?_, ?_, .cons alike likes, .cons (reads.member key) all⟩
    · simp only [writeEntries?, first, later, Option.bind_eq_bind, Option.bind_some]
      rfl
    · rw [List.map_cons, List.map_cons, keys]

end

theorem toList_list (written : List String) :
    ("[" ++ String.intercalate "," written ++ "]").toList =
      '[' :: ([','].intercalate (written.map String.toList) ++ [']']) := by
  simp [String.toList_append, String.toList_intercalate]

theorem toList_object (written : List (String × String)) :
    (Text.object written).toList = '\x7b' :: ([','].intercalate (written.map memberText) ++ ['\x7d']) := by
  simp only [Text.object, String.toList_append, String.toList_intercalate, List.map_map]
  rw [show String.toList ∘ (fun m : String × String => Text.literal m.1 ++ ":" ++ m.2) = memberText from
    funext fun m => by simp [memberText]]
  rfl

theorem Plain.kept {depth : Nat} {d : Document} (plain : Plain depth d) : Kept (value depth) d := by
  -- The parts of a list or a table are read one level less deep, which is what the hypothesis is about.
  induction plain with
  | null =>
    refine ⟨"null", .null, rfl, .same _, ⟨'n', _, rfl, rfl, by decide, by decide⟩, fun rest _ => ?_⟩
    exact value_eq_scalar (by decide) (by decide) _ _
  | boolean b =>
    cases b with
    | false =>
      refine ⟨"false", .boolean false, rfl, .same _, ⟨'f', _, rfl, rfl, by decide, by decide⟩, fun rest _ => ?_⟩
      exact value_eq_scalar (by decide) (by decide) _ _
    | true =>
      refine ⟨"true", .boolean true, rfl, .same _, ⟨'t', _, rfl, rfl, by decide, by decide⟩, fun rest _ => ?_⟩
      exact value_eq_scalar (by decide) (by decide) _ _
  | @count depth n small =>
    have row : (toString (n : Int)).toList = Nat.toDigits 10 n := by
      rw [show toString (n : Int) = toString n from rfl, Nat.toString_eq_ofList_toDigits, String.toList_ofList]
    obtain ⟨c, more, form⟩ := List.exists_cons_of_ne_nil (Nat.toDigits_ne_nil (n := n) (b := 10))
    have digit := toDigits_digits n c (by simp [form])
    have apart : ∀ a, Decimal.isDigit a = false → c ≠ a := by
      rintro a other rfl
      rw [digit] at other
      cases other
    refine ⟨toString (n : Int), .integer n, rfl, .same _, ⟨c, more, row.trans form, ?_, apart _ rfl, apart _ rfl⟩,
      fun rest stops => ?_⟩
    · simp [isBlank, apart ' ' rfl, apart '\t' rfl, apart '\n' rfl, apart '\r' rfl]
    · rw [row, form, List.cons_append, value_eq_scalar (apart _ rfl) (apart _ rfl), ← List.cons_append, ← form,
        scalar_of_digits, numeral_append small stops]
  | text s =>
    refine ⟨_, .text s, rfl, .same _, ⟨'"', _, toList_literal s, rfl, by decide, by decide⟩, fun rest _ => ?_⟩
    rw [toList_literal, List.cons_append, value_eq_scalar (by decide) (by decide), List.append_assoc]
    simp only [scalar, List.singleton_append, literal_append]
    rfl
  | list plain ih =>
    obtain ⟨written, items', written_, alike, all⟩ := writeItems_kept ih
    refine ⟨_, .list items', by rw [write?, written_]; rfl, .list alike,
      ⟨'[', _, toList_list written, rfl, by decide, by decide⟩, fun rest _ => ?_⟩
    rw [toList_list, List.cons_append, List.append_assoc, List.singleton_append, value]
    simp only [enclosed_append all (.inl rfl)]
    rfl
  | table distinct plain ih =>
    obtain ⟨written, entries', written_, keys, alike, all⟩ := writeEntries_kept ih
    rw [keys] at distinct
    obtain ⟨sorted, table, order⟩ := Document.ofMembers_perm distinct
    refine ⟨_, .table sorted, by rw [write?, written_]; rfl, .table keys alike order,
      ⟨'\x7b', _, toList_object written, rfl, by decide, by decide⟩, fun rest _ => ?_⟩
    rw [toList_object, List.cons_append, List.append_assoc, List.singleton_append, value]
    simp only [enclosed_append all (.inr rfl), Option.map_some, table]

/-- What is written of a plain document is read as a document like it. -/
theorem exists_read?_write? {d : Document} (plain : Plain depthLimit d) :
    ∃ s d', write? d = some s ∧ read? s = some d' ∧ d.Alike d' := by
  obtain ⟨s, d', written, alike, reads⟩ := plain.kept
  refine ⟨s, d', written, ?_, alike⟩
  have whole := reads.reads [] nofun
  have front := reads.skipBlanks []
  rw [List.append_nil] at whole front
  unfold read?
  simp only [front, whole, Option.bind_eq_bind, Option.bind_some]
  rfl

end FrameHost.Message
