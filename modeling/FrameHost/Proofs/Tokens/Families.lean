import FrameHost.Proofs.Past
import FrameHost.Token

/-! Tokens in many hands.

Their holders make tokens, clone, cancel and await them in any order while time passes. A token and all
clones of it, at any remove, are a family, whose root is the token that was made afresh. The table of
tokens tells who belongs together, and which families have been cancelled. -/

set_option autoImplicit false

namespace FrameHost.Tokens

/-- What a holder does with tokens, and the passing of time. -/
inductive Event where
  | timeout (length : Duration)
  | deadline (at_ : Nat)
  | clone (token : Nat)
  | cancel (token : Nat)
  | wait (token : Nat)
  | resolve (wait : Nat)
  | pass (millis : Nat)
  deriving DecidableEq, Repr

structure Wait where
  token : Nat
  begun : Nat
  ended : Option Nat := none
  deriving DecidableEq, Repr

/-- All tokens, all waits for them, and the clock. -/
structure Scene where
  clock : Clock
  tokens : Tokens := {}
  waits : List Wait := []

namespace Scene

def now (s : Scene) : Nat := s.clock.now

def fired (s : Scene) (token : Nat) : Bool := (s.tokens.get? token).any fun t => t.fired s.now

/-- Time may pass while a wait is under way, but only while the token has not fired, and no further than to
its deadline: timers fire at their time, and whoever is woken goes on before the clock does. -/
def lets (s : Scene) (later : Nat) (w : Wait) : Bool :=
  w.ended.isSome || (!s.fired w.token && (s.tokens.get? w.token).any fun t => decide (later ≤ t.deadline))

def step? (s : Scene) : Event → Option Scene
  | .timeout length => (s.clock.deadline? length).map fun d => { s with tokens := s.tokens.create d }
  | .deadline d => some { s with tokens := s.tokens.create d }
  | .clone i => (s.tokens.clone? i).map fun tokens => { s with tokens }
  | .cancel i => (s.tokens.family? i).map fun _ => { s with tokens := s.tokens.cancel i }
  | .wait i => (s.tokens.get? i).map fun _ => { s with waits := s.waits ++ [{ token := i, begun := s.now }] }
  | .resolve k =>
    (s.waits[k]?).bind fun w =>
      if w.ended = none ∧ s.fired w.token then
        some { s with waits := s.waits.set k { w with ended := some s.now } }
      else none
  | .pass millis =>
    if s.waits.all (s.lets (s.now + millis)) then
      some { s with clock := { s.clock with now := s.now + millis } }
    else none

end Scene

structure Moment where
  before : Scene
  event : Event

/-- Any holders at work from some scene on. -/
inductive Timed (start : Scene) : List Moment → Scene → Prop where
  | start : Timed start [] start
  | step {past : List Moment} {s s' : Scene} {e : Event} (timed : Timed start past s)
      (stepped : s.step? e = some s') : Timed start (past ++ [⟨s, e⟩]) s'

def Scene.run? (s : Scene) : List Event → Option (List Moment × Scene)
  | [] => some ([], s)
  | e :: rest => do
    let s' ← s.step? e
    let (past, last) ← run? s' rest
    some (⟨s, e⟩ :: past, last)

inductive Birth where
  | afresh (deadline : Nat)
  | cloneOf (token : Nat)
  deriving DecidableEq, Repr

def Moment.birth? (m : Moment) : Option Birth :=
  match m.event with
  | .timeout length => some (.afresh (m.before.now + length.millis))
  | .deadline d => some (.afresh d)
  | .clone i => some (.cloneOf i)
  | _ => none

/-- The births of all tokens. The place in this list is the number of the token. -/
def births (past : List Moment) : List Birth := past.filterMap Moment.birth?

/-- A token is, at any remove, a clone of one that was made with a deadline, or that one itself. -/
inductive Descends (past : List Moment) : Nat → Nat → Nat → Prop where
  | afresh {i d : Nat} (born : (births past)[i]? = some (.afresh d)) : Descends past i i d
  | cloned {i j root d : Nat} (born : (births past)[i]? = some (.cloneOf j)) (descends : Descends past j root d) :
      Descends past i root d

/-- Two tokens are of one family. -/
def Kin (past : List Moment) (i j : Nat) : Prop := ∃ root d, Descends past i root d ∧ Descends past j root d

inductive Scene.Deals (s : Scene) : Event → Tokens → Prop where
  | create {e : Event} {d : Nat} (born : Moment.birth? ⟨s, e⟩ = some (.afresh d)) :
      Deals s e (s.tokens.create d)
  | clone {i f : Nat} (family : s.tokens.family? i = some f) :
      Deals s (.clone i) { s.tokens with tokens := s.tokens.tokens ++ [f] }
  | cancel {i f : Nat} (family : s.tokens.family? i = some f) : Deals s (.cancel i) (s.tokens.cancelFamily f)

inductive Scene.Step (s : Scene) : Event → Scene → Prop where
  | deal {e : Event} {tokens : Tokens} (deals : s.Deals e tokens) : Step s e { s with tokens }
  | wait {i : Nat} {t : Token} (there : s.tokens.get? i = some t) :
      Step s (.wait i) { s with waits := s.waits ++ [{ token := i, begun := s.now }] }
  | resolve {k : Nat} {w : Wait} (found : s.waits[k]? = some w) (pending : w.ended = none)
      (fired : s.fired w.token = true) :
      Step s (.resolve k) { s with waits := s.waits.set k { w with ended := some s.now } }
  | pass {millis : Nat}
      (free : ∀ w ∈ s.waits, w.ended = none → s.fired w.token = false ∧
        ∃ t, s.tokens.get? w.token = some t ∧ s.now + millis ≤ t.deadline) :
      Step s (.pass millis) { s with clock := { s.clock with now := s.now + millis } }

section
variable {start s s' : Scene} {past more : List Moment} {m : Moment} {e : Event} {i j : Nat}

theorem births_append : births (past ++ more) = births past ++ births more := List.filterMap_append

theorem births_concat : births (past ++ [m]) = births past ++ m.birth?.toList := by
  rw [births_append]
  cases born : m.birth? <;> simp [births, born]

theorem Scene.lets_iff {later : Nat} {w : Wait} :
    s.lets later w = true ↔ (w.ended = none → s.fired w.token = false ∧
      ∃ t, s.tokens.get? w.token = some t ∧ later ≤ t.deadline) := by
  cases ended : w.ended <;> simp [lets, ended, Option.any_eq_true]

theorem Scene.step?_resolve {k : Nat} {w : Wait} (found : s.waits[k]? = some w) (pending : w.ended = none)
    (fired : s.fired w.token = true) :
    s.step? (.resolve k) = some { s with waits := s.waits.set k { w with ended := some s.now } } := by
  simp [step?, found, pending, fired]

theorem Scene.step?_pass {millis : Nat} (free : ∀ w ∈ s.waits, w.ended = none → s.fired w.token = false ∧
      ∃ t, s.tokens.get? w.token = some t ∧ s.now + millis ≤ t.deadline) :
    s.step? (.pass millis) = some { s with clock := { s.clock with now := s.now + millis } } := by
  have all : s.waits.all (s.lets (s.now + millis)) = true :=
    List.all_eq_true.mpr fun w member => Scene.lets_iff.mpr (free w member)
  simp only [step?, all, if_true]

theorem Scene.Step.of_step? (stepped : s.step? e = some s') : s.Step e s' := by
  cases e with
  | timeout length =>
    obtain ⟨d, made, rfl⟩ := Option.map_eq_some_iff.mp stepped
    obtain ⟨-, rfl⟩ := (Clock.deadline?_eq_some_iff _ _ _).mp made
    exact .deal (.create rfl)
  | deadline d =>
    cases stepped
    exact .deal (.create rfl)
  | clone i =>
    obtain ⟨tokens, cloned, rfl⟩ := Option.map_eq_some_iff.mp stepped
    obtain ⟨f, family, rfl⟩ := Option.map_eq_some_iff.mp cloned
    exact .deal (.clone family)
  | cancel i =>
    obtain ⟨f, family, rfl⟩ := Option.map_eq_some_iff.mp stepped
    simp only [Tokens.cancel, family]
    exact .deal (.cancel family)
  | wait i =>
    obtain ⟨t, there, rfl⟩ := Option.map_eq_some_iff.mp stepped
    exact .wait there
  | resolve k =>
    obtain ⟨w, found, ended⟩ := Option.bind_eq_some_iff.mp stepped
    split at ended
    · rename_i open_
      cases ended
      exact .resolve found open_.1 open_.2
    · cases ended
  | pass millis =>
    simp only [step?] at stepped
    split at stepped
    · rename_i free
      cases stepped
      exact .pass fun w member => Scene.lets_iff.mp (List.all_eq_true.mp free w member)
    · cases stepped

theorem Timed.single (stepped : s.step? e = some s') : Timed s [⟨s, e⟩] s' := Timed.start.step stepped

theorem Timed.append {t : Scene} (first : Timed start past s) (second : Timed s more t) :
    Timed start (past ++ more) t := by
  induction second with
  | start => simpa using first
  | step _ stepped ih =>
    rw [← List.append_assoc]
    exact ih.step stepped

theorem Timed.of_run? {events : List Event} (ran : s.run? events = some (past, s')) : Timed s past s' := by
  induction events generalizing s past with
  | nil =>
    cases ran
    exact .start
  | cons e rest ih =>
    obtain ⟨next, stepped, ran⟩ := Option.bind_eq_some_iff.mp ran
    obtain ⟨⟨more, last⟩, ran, same⟩ := Option.bind_eq_some_iff.mp ran
    cases same
    exact (Timed.single stepped).append (ih ran)

theorem Timed.at_moment {before after : List Moment} (timed : Timed start past s)
    (split : past = before ++ m :: after) :
    Timed start before m.before ∧ ∃ s', m.before.step? m.event = some s' ∧ Timed s' after s := by
  induction timed generalizing after with
  | start => simp at split
  | step timed stepped ih =>
    rcases split_concat split with ⟨rfl, rfl, rfl⟩ | ⟨rest, rfl, same⟩
    · exact ⟨timed, _, stepped, .start⟩
    · obtain ⟨earlier, s', here, later⟩ := ih same
      exact ⟨earlier, s', here, later.step stepped⟩

end

theorem Descends.born {past : List Moment} {i r d : Nat} (descends : Descends past i r d) :
    (births past)[r]? = some (.afresh d) := by
  induction descends with
  | afresh born => exact born
  | cloned _ _ ih => exact ih

/-- The table of tokens keeps what has happened. -/
structure Tabled (past : List Moment) (tokens : Tokens) : Prop where
  size : tokens.tokens.length = (births past).length
  known : ∀ i f, tokens.family? i = some f → f < tokens.families.length
  afresh : ∀ i d, (births past)[i]? = some (.afresh d) →
    ∃ f t, tokens.family? i = some f ∧ tokens.families[f]? = some t ∧ t.deadline = d
  cloned : ∀ i j, (births past)[i]? = some (.cloneOf j) → j < i ∧ tokens.family? i = tokens.family? j
  apart : ∀ i j d e, (births past)[i]? = some (.afresh d) → (births past)[j]? = some (.afresh e) →
    tokens.family? i = tokens.family? j → i = j
  held : ∀ m ∈ past, ∀ j, m.event = .cancel j → ∃ f, tokens.family? j = some f
  cancelled : ∀ f t, tokens.families[f]? = some t →
    (t.cancelled = true ↔ ∃ m ∈ past, ∃ j, m.event = .cancel j ∧ tokens.family? j = some f)

section
variable {start s s' : Scene} {past : List Moment} {m : Moment} {e : Event} {tokens : Tokens} {i j f g : Nat}

theorem family?_concat {families : List Token} :
    Tokens.family? { families, tokens := tokens.tokens ++ [g] } i = some f ↔
      tokens.family? i = some f ∨ (i = tokens.tokens.length ∧ g = f) :=
  getElem?_concat_eq_some_iff

theorem family?_concat_lt {families : List Token} (bound : i < tokens.tokens.length) :
    Tokens.family? { families, tokens := tokens.tokens ++ [g] } i = tokens.family? i :=
  List.getElem?_append_left bound

theorem Tabled.keep (tabled : Tabled past tokens) (unborn : m.birth? = none) (plain : ∀ j, m.event ≠ .cancel j) :
    Tabled (past ++ [m]) tokens := by
  have same : births (past ++ [m]) = births past := by simp [births_concat, unborn]
  constructor
  · rw [same]
    exact tabled.size
  · exact tabled.known
  · rw [same]
    exact tabled.afresh
  · rw [same]
    exact tabled.cloned
  · rw [same]
    exact tabled.apart
  · intro m' member j cancels
    rcases List.mem_append.mp member with old | new
    · exact tabled.held m' old j cancels
    · cases List.mem_singleton.mp new
      exact (plain j cancels).elim
  · intro f t found
    rw [tabled.cancelled f t found, exists_concat_iff]
    simp [plain]

theorem Tabled.lt_of_born {b : Birth} (tabled : Tabled past tokens) (born : (births past)[i]? = some b) :
    i < tokens.tokens.length := by
  rw [tabled.size]
  exact (List.getElem?_eq_some_iff.mp born).1

theorem Tabled.born_concat {b b' : Birth} (tabled : Tabled past tokens) (born : m.birth? = some b) :
    (births (past ++ [m]))[i]? = some b' ↔
      (births past)[i]? = some b' ∨ (i = tokens.tokens.length ∧ b = b') := by
  have whole : births (past ++ [m]) = births past ++ [b] := by simp [births_concat, born]
  rw [whole, getElem?_concat_eq_some_iff, tabled.size]

theorem Tabled.held_concat {families : List Token} (tabled : Tabled past tokens) (plain : ∀ j, m.event ≠ .cancel j) :
    ∀ m' ∈ past ++ [m], ∀ j, m'.event = .cancel j →
      ∃ f, Tokens.family? { families, tokens := tokens.tokens ++ [g] } j = some f := by
  intro m' member j cancels
  rcases List.mem_append.mp member with old | new
  · obtain ⟨f, family⟩ := tabled.held m' old j cancels
    exact ⟨f, family?_concat.mpr (.inl family)⟩
  · cases List.mem_singleton.mp new
    exact (plain j cancels).elim

theorem Tabled.cancels_concat {families : List Token} (tabled : Tabled past tokens)
    (plain : ∀ j, m.event ≠ .cancel j) :
    (∃ m' ∈ past ++ [m], ∃ j, m'.event = .cancel j ∧
      Tokens.family? { families, tokens := tokens.tokens ++ [g] } j = some f) ↔
    ∃ m' ∈ past, ∃ j, m'.event = .cancel j ∧ tokens.family? j = some f := by
  rw [exists_concat_iff]
  constructor
  · rintro (⟨m', member, j, cancels, family⟩ | ⟨j, cancels, -⟩)
    · obtain ⟨h, there⟩ := tabled.held m' member j cancels
      rw [family?_concat_lt (family?_lt there)] at family
      exact ⟨m', member, j, cancels, family⟩
    · exact (plain j cancels).elim
  · rintro ⟨m', member, j, cancels, family⟩
    exact .inl ⟨m', member, j, cancels, family?_concat.mpr (.inl family)⟩

theorem Tabled.create {d : Nat} (tabled : Tabled past tokens) (born : m.birth? = some (.afresh d)) :
    Tabled (past ++ [m]) (tokens.create d) := by
  have plain : ∀ j, m.event ≠ .cancel j := fun j cancels => by simp [Moment.birth?, cancels] at born
  have births {i : Nat} {b : Birth} : (births (past ++ [m]))[i]? = some b ↔ _ := tabled.born_concat born
  have old {i : Nat} {b : Birth} (born : (Tokens.births past)[i]? = some b) :
      (tokens.create d).family? i = tokens.family? i := family?_concat_lt (tabled.lt_of_born born)
  have new : (tokens.create d).family? tokens.tokens.length = some tokens.families.length :=
    family?_concat.mpr (.inr ⟨rfl, rfl⟩)
  have other {i : Nat} : tokens.family? i ≠ some tokens.families.length :=
    fun same => Nat.lt_irrefl _ (tabled.known i _ same)
  constructor
  · simp [Tokens.create, births_concat, born, tabled.size]
  · intro i f family
    rcases family?_concat.mp family with older | ⟨-, rfl⟩
    · exact Nat.lt_of_lt_of_le (tabled.known i f older) (by simp [Tokens.create])
    · simp [Tokens.create]
  · intro i d' afresh
    rcases births.mp afresh with older | ⟨rfl, same⟩
    · obtain ⟨f, t, family, found, due⟩ := tabled.afresh i d' older
      exact ⟨f, t, (old older).trans family, getElem?_concat_eq_some_iff.mpr (.inl found), due⟩
    · cases same
      exact ⟨_, _, new, List.getElem?_concat_length, rfl⟩
  · intro i j cloned
    rcases births.mp cloned with older | ⟨-, same⟩
    · obtain ⟨below, family⟩ := tabled.cloned i j older
      have bound := tabled.lt_of_born older
      exact ⟨below, (old older).trans (family.trans (family?_concat_lt (Nat.lt_trans below bound)).symm)⟩
    · cases same
  -- The new family has no tokens yet, so two originals share one only if they are the same.
  · intro i j d' e first second same
    rcases births.mp first with older | ⟨rfl, -⟩ <;> rcases births.mp second with older' | ⟨rfl, -⟩
    · rw [old older, old older'] at same
      exact tabled.apart i j d' e older older' same
    · rw [old older, new] at same
      exact (other same).elim
    · rw [old older', new] at same
      exact (other same.symm).elim
    · rfl
  · exact tabled.held_concat plain
  · intro f t found
    refine Iff.trans ?_ (tabled.cancels_concat plain).symm
    rcases getElem?_concat_eq_some_iff.mp found with older | ⟨rfl, rfl⟩
    · exact tabled.cancelled f t older
    · simp [other]

theorem Tabled.clone (tabled : Tabled past tokens) (born : m.birth? = some (.cloneOf j))
    (family : tokens.family? j = some g) :
    Tabled (past ++ [m]) { tokens with tokens := tokens.tokens ++ [g] } := by
  have plain : ∀ j, m.event ≠ .cancel j := fun j cancels => by simp [Moment.birth?, cancels] at born
  have births {i : Nat} {b : Birth} : (births (past ++ [m]))[i]? = some b ↔ _ := tabled.born_concat born
  -- The clone stands behind all others, so whoever is in the table keeps its family.
  have old {i : Nat} {b : Birth} (born : (Tokens.births past)[i]? = some b) :
      family? { tokens with tokens := tokens.tokens ++ [g] } i = tokens.family? i :=
    family?_concat_lt (tabled.lt_of_born born)
  have new : family? { tokens with tokens := tokens.tokens ++ [g] } tokens.tokens.length = some g :=
    family?_concat.mpr (.inr ⟨rfl, rfl⟩)
  constructor
  · simp [births_concat, born, tabled.size]
  · intro i f member
    rcases family?_concat.mp member with older | ⟨-, rfl⟩
    · exact tabled.known i f older
    · exact tabled.known j g family
  · intro i d afresh
    rcases births.mp afresh with older | ⟨-, same⟩
    · obtain ⟨f, t, member, found, due⟩ := tabled.afresh i d older
      exact ⟨f, t, (old older).trans member, found, due⟩
    · cases same
  · intro i k cloned
    rcases births.mp cloned with older | ⟨rfl, same⟩
    · obtain ⟨below, equal⟩ := tabled.cloned i k older
      have bound := tabled.lt_of_born older
      exact ⟨below, (old older).trans (equal.trans (family?_concat_lt (Nat.lt_trans below bound)).symm)⟩
    · cases same
      have bound := family?_lt family
      exact ⟨bound, new.trans (family.symm.trans (family?_concat_lt bound).symm)⟩
  · intro i k d e first second same
    rcases births.mp first with older | ⟨-, cloned⟩
    · rcases births.mp second with older' | ⟨-, cloned⟩
      · rw [old older, old older'] at same
        exact tabled.apart i k d e older older' same
      · cases cloned
    · cases cloned
  · exact tabled.held_concat plain
  · intro f t found
    exact (tabled.cancelled f t found).trans (tabled.cancels_concat plain).symm

theorem Tabled.cancel (tabled : Tabled past tokens) (cancels : m.event = .cancel j)
    (family : tokens.family? j = some g) : Tabled (past ++ [m]) (tokens.cancelFamily g) := by
  -- A cancel makes no token. It marks one family, and only the last part of the table says what is marked.
  have same : births (past ++ [m]) = births past := by simp [births_concat, Moment.birth?, cancels]
  constructor
  · rw [same]
    exact tabled.size
  · intro i f member
    exact Nat.lt_of_lt_of_eq (tabled.known i f member) (List.length_modify ..).symm
  · intro i d afresh
    rw [same] at afresh
    obtain ⟨f, t, member, found, due⟩ := tabled.afresh i d afresh
    refine ⟨f, if g = f then t.cancel else t, member, ?_, ?_⟩
    · rw [getElem?_cancelFamily, found]
      split <;> rfl
    · split <;> exact due
  · rw [same]
    exact tabled.cloned
  · rw [same]
    exact tabled.apart
  · intro m' member i cancelled
    rcases List.mem_append.mp member with old | new
    · exact tabled.held m' old i cancelled
    · cases List.mem_singleton.mp new
      cases cancels.symm.trans cancelled
      exact ⟨g, family⟩
  · intro f t found
    rw [getElem?_cancelFamily] at found
    rw [exists_concat_iff]
    split at found
    · rename_i own
      subst own
      obtain ⟨u, -, rfl⟩ := Option.map_eq_some_iff.mp found
      exact iff_of_true rfl (.inr ⟨j, cancels, family⟩)
    · rename_i other
      have elsewhere : ¬∃ i, m.event = .cancel i ∧ tokens.family? i = some f := by
        rintro ⟨i, cancelled, member⟩
        cases cancels.symm.trans cancelled
        exact other (Option.some.inj (family.symm.trans member))
      rw [tabled.cancelled f t found]
      exact (or_iff_left elsewhere).symm

theorem Tabled.step (tabled : Tabled past s.tokens) (step : s.Step e s') :
    Tabled (past ++ [⟨s, e⟩]) s'.tokens := by
  cases step with
  | deal deals =>
    cases deals with
    | create born => exact tabled.create born
    | clone family => exact tabled.clone rfl family
    | cancel family => exact tabled.cancel rfl family
  | wait => exact tabled.keep rfl nofun
  | resolve => exact tabled.keep rfl nofun
  | pass => exact tabled.keep rfl nofun

end

section
variable {start s s' : Scene} {past : List Moment} {e : Event} {tokens : Tokens} {i j r d : Nat} {t : Token}

theorem get?_eq_some_iff : tokens.get? i = some t ↔ ∃ f, tokens.family? i = some f ∧ tokens.families[f]? = some t :=
  Option.bind_eq_some_iff

theorem Tabled.descends (tabled : Tabled past tokens) (made : i < (births past).length) :
    ∃ r d, Descends past i r d := by
  -- The original of a clone was made before it.
  induction i using Nat.strongRecOn with
  | ind i ih =>
    obtain ⟨b, born⟩ : ∃ b, (births past)[i]? = some b := ⟨_, List.getElem?_eq_getElem made⟩
    cases b with
    | afresh d => exact ⟨i, d, .afresh born⟩
    | cloneOf j =>
      have below := (tabled.cloned i j born).1
      obtain ⟨r, d, descends⟩ := ih j below (Nat.lt_trans below made)
      exact ⟨r, d, .cloned born descends⟩

theorem Tabled.family?_root (tabled : Tabled past tokens) (descends : Descends past i r d) :
    tokens.family? i = tokens.family? r := by
  induction descends with
  | afresh => rfl
  | cloned born _ ih => exact (tabled.cloned _ _ born).2.trans ih

theorem Tabled.get? (tabled : Tabled past tokens) (descends : Descends past i r d) :
    ∃ t, tokens.get? i = some t ∧ t.deadline = d := by
  obtain ⟨f, t, family, found, due⟩ := tabled.afresh r d descends.born
  exact ⟨t, get?_eq_some_iff.mpr ⟨f, (tabled.family?_root descends).trans family, found⟩, due⟩

theorem Tabled.exists_descends (tabled : Tabled past tokens) (there : tokens.get? i = some t) :
    ∃ r, Descends past i r t.deadline := by
  obtain ⟨f, family, -⟩ := get?_eq_some_iff.mp there
  obtain ⟨r, d, descends⟩ := tabled.descends (tabled.size ▸ family?_lt family)
  obtain ⟨u, found, rfl⟩ := tabled.get? descends
  cases there.symm.trans found
  exact ⟨r, descends⟩

theorem Tabled.kin_iff (tabled : Tabled past tokens) :
    Kin past i j ↔ ∃ f, tokens.family? i = some f ∧ tokens.family? j = some f := by
  constructor
  · rintro ⟨r, d, first, second⟩
    obtain ⟨f, -, family, -, -⟩ := tabled.afresh r d first.born
    exact ⟨f, (tabled.family?_root first).trans family, (tabled.family?_root second).trans family⟩
  · rintro ⟨f, first, second⟩
    obtain ⟨r, d, up⟩ := tabled.descends (tabled.size ▸ family?_lt first)
    obtain ⟨q, e, up'⟩ := tabled.descends (tabled.size ▸ family?_lt second)
    have same : r = q := by
      apply tabled.apart r q d e up.born up'.born
      rw [← tabled.family?_root up, ← tabled.family?_root up', first, second]
    subst same
    cases up.born.symm.trans up'.born
    exact ⟨r, d, up, up'⟩

theorem Tabled.cancelled_iff (tabled : Tabled past tokens) (there : tokens.get? i = some t) :
    t.cancelled = true ↔ ∃ m ∈ past, ∃ j, m.event = .cancel j ∧ Kin past i j := by
  obtain ⟨f, family, found⟩ := get?_eq_some_iff.mp there
  simp only [tabled.cancelled f t found, tabled.kin_iff, family, Option.some.injEq, exists_eq_left']

theorem Scene.Step.family? {f : Nat} (step : s.Step e s') (family : s.tokens.family? i = some f) :
    s'.tokens.family? i = some f := by
  cases step with
  | deal deals =>
    cases deals with
    | create => exact family?_concat.mpr (.inl family)
    | clone => exact family?_concat.mpr (.inl family)
    | cancel => exact family
  | _ => exact family

theorem Scene.Step.get? (step : s.Step e s') (there : s.tokens.get? i = some t) :
    s'.tokens.get? i = some t ∨ (s'.tokens.get? i = some t.cancel ∧
      ∃ j f, e = .cancel j ∧ s.tokens.family? j = some f ∧ s.tokens.family? i = some f) := by
  obtain ⟨f, family, found⟩ := get?_eq_some_iff.mp there
  have still := step.family? family
  cases step with
  | deal deals =>
    cases deals with
    | create => exact .inl (get?_eq_some_iff.mpr ⟨f, still, getElem?_concat_eq_some_iff.mpr (.inl found)⟩)
    | clone => exact .inl (get?_eq_some_iff.mpr ⟨f, still, found⟩)
    | @cancel j g named =>
      by_cases own : g = f
      · subst own
        refine .inr ⟨get?_eq_some_iff.mpr ⟨g, still, ?_⟩, j, g, rfl, named, family⟩
        rw [getElem?_cancelFamily, if_pos rfl, found]
        rfl
      · refine .inl (get?_eq_some_iff.mpr ⟨f, still, ?_⟩)
        rw [getElem?_cancelFamily, if_neg own, found]
  | _ => exact .inl there

theorem Scene.Step.now_le (step : s.Step e s') : s.now ≤ s'.now := by
  cases step with
  | pass => exact Nat.le_add_right ..
  | _ => exact Nat.le_refl _

theorem Timed.tabled {clock : Clock} (timed : Timed { clock } past s) : Tabled past s.tokens := by
  generalize begun : ({ clock } : Scene) = start at timed
  induction timed with
  | start =>
    subst begun
    constructor <;> simp [births, Tokens.family?]
  | step _ stepped ih => exact ih.step (.of_step? stepped)

theorem Timed.now_le (timed : Timed start past s) : start.now ≤ s.now ∧ ∀ m ∈ past, m.before.now ≤ s.now := by
  induction timed with
  | start => exact ⟨Nat.le_refl _, nofun⟩
  | @step past s s' e _ stepped ih =>
    have later := (Scene.Step.of_step? stepped).now_le
    refine ⟨Nat.le_trans ih.1 later, fun m member => ?_⟩
    rcases List.mem_append.mp member with old | new
    · exact Nat.le_trans (ih.2 m old) later
    · cases List.mem_singleton.mp new
      exact later

/-- Tokens last. Their deadlines stay, and they do not go back on a cancel. -/
theorem Timed.get? (timed : Timed start past s) (there : start.tokens.get? i = some t) :
    ∃ t', s.tokens.get? i = some t' ∧ t'.deadline = t.deadline ∧
      (t.fired start.now = true → t'.fired s.now = true) := by
  induction timed with
  | start => exact ⟨t, there, rfl, id⟩
  | step _ stepped ih =>
    obtain ⟨u, found, due, fires⟩ := ih
    have step := Scene.Step.of_step? stepped
    rcases step.get? found with kept | ⟨cancelled, -⟩
    · exact ⟨u, kept, due, fun fired => u.fired_mono step.now_le (fires fired)⟩
    · exact ⟨u.cancel, cancelled, due, fun _ => u.fired_cancel _⟩

end

end FrameHost.Tokens
