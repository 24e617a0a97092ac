import Mathlib.Data.Set.Insert
import Mathlib.Order.Lattice.Nat
import FrameHost.Proofs.Tokens.Families

/-! When tokens fire, and when waits for them end.

A token fires at the first of its causes: its deadline, and the cancels in its family. A wait ends at that
time, or at once if the token has fired before. The clock can always go on: whoever holds it up can end
their wait. -/

set_option autoImplicit false

namespace FrameHost.Tokens

/-- The times at which a token has been cancelled, itself or through its kin. -/
def cancelTimes (past : List Moment) (i : Nat) : Set Nat :=
  {time | ∃ m ∈ past, ∃ j, m.event = .cancel j ∧ Kin past i j ∧ m.before.now = time}

/-- The times that have made a token fire or will do so. -/
def causes (past : List Moment) (i deadline : Nat) : Set Nat := insert deadline (cancelTimes past i)

structure Shows (past : List Moment) (now i : Nat) (t : Token) : Prop where
  deadline : ∃ r, Descends past i r t.deadline
  fired : t.fired now = true ↔ t.deadline ≤ now ∨ (cancelTimes past i).Nonempty
  remaining : t.remaining now = t.deadline - now
  spent : t.remaining now = 0 ↔ t.deadline ≤ now

/-- A wait ends when its token fires, not before and not after. -/
structure Wait.Prompt (past : List Moment) (now deadline : Nat) (w : Wait) : Prop where
  begun : w.begun ≤ now
  ended : ∀ r, w.ended = some r → r ≤ now ∧ ∃ x, IsLeast (causes past w.token deadline) x ∧ r = max w.begun x
  pending : w.ended = none → ∀ x ∈ causes past w.token deadline, now ≤ max w.begun x

def Event.Quiet : Event → Prop
  | .resolve _ | .pass _ => True
  | _ => False

/-- What holds of the tokens after anything that their holders may have done. -/
structure Accounted (past : List Moment) (s : Scene) : Prop where
  tokens : ∀ i, i < (births past).length → ∃ t, s.tokens.get? i = some t ∧ Shows past s.now i t
  waits : ∀ w ∈ s.waits, ∃ t, s.tokens.get? w.token = some t ∧ w.Prompt past s.now t.deadline
  awaited : ∀ m ∈ past, ∀ i, m.event = .wait i → ∃ w ∈ s.waits, w.token = i ∧ w.begun = m.before.now
  lasting : ∀ m ∈ past, ∀ i t, m.before.tokens.get? i = some t →
    ∃ t', s.tokens.get? i = some t' ∧ t'.deadline = t.deadline ∧
      (t.fired m.before.now = true → t'.fired s.now = true)
  apart : ∀ before m after, past = before ++ m :: after → ∃ s', m.before.step? m.event = some s' ∧
    ∀ i t, m.before.tokens.get? i = some t → (∀ j, m.event = .cancel j → ¬Kin before i j) →
      s'.tokens.get? i = some t
  goesOn : ∀ later, s.now ≤ later → ∃ more s', Timed s more s' ∧ s'.now = later ∧ ∀ m ∈ more, m.event.Quiet

section
variable {start s s' : Scene} {past : List Moment} {m : Moment} {e : Event} {i d later : Nat} {t : Token}
  {w : Wait} {clock : Clock}

theorem exists_isLeast_causes (past : List Moment) (i d : Nat) : ∃ x, IsLeast (causes past i d) x :=
  have some_ : (causes past i d).Nonempty := ⟨d, Set.mem_insert ..⟩
  ⟨sInf (causes past i d), Nat.sInf_mem some_, fun _ member => Nat.sInf_le member⟩

theorem Tabled.cancelled_iff_nonempty (tabled : Tabled past s.tokens) (there : s.tokens.get? i = some t) :
    t.cancelled = true ↔ (cancelTimes past i).Nonempty := by
  rw [tabled.cancelled_iff there]
  constructor
  · rintro ⟨m, member, j, cancels, kin⟩
    exact ⟨_, m, member, j, cancels, kin, rfl⟩
  · rintro ⟨-, m, member, j, cancels, kin, -⟩
    exact ⟨m, member, j, cancels, kin⟩

theorem Tabled.shows {now : Nat} (tabled : Tabled past s.tokens) (there : s.tokens.get? i = some t) :
    Shows past now i t := by
  constructor
  · exact tabled.exists_descends there
  · rw [Token.fired, Bool.or_eq_true, decide_eq_true_iff, or_comm, tabled.cancelled_iff_nonempty there]
  · rfl
  · exact Nat.sub_eq_zero_iff_le

theorem Scene.Step.of_cancel {j : Nat} (step : s.Step (.cancel j) s') : ∃ f, s.tokens.family? j = some f := by
  cases step with
  | deal deals =>
    cases deals with
    | create born => cases born
    | cancel family => exact ⟨_, family⟩

theorem Tabled.kin_step {j f g : Nat} (tabled : Tabled past s.tokens) (step : s.Step e s')
    (first : s.tokens.family? i = some f) (second : s.tokens.family? j = some g) :
    Kin (past ++ [⟨s, e⟩]) i j ↔ Kin past i j := by
  rw [(tabled.step step).kin_iff, tabled.kin_iff, step.family? first, step.family? second, first, second]

theorem Tabled.causes_step {x : Nat} (tabled : Tabled past s.tokens) (step : s.Step e s')
    (there : s.tokens.get? i = some t) :
    x ∈ causes (past ++ [⟨s, e⟩]) i d ↔
      x ∈ causes past i d ∨ (x = s.now ∧ ∃ j, e = .cancel j ∧ Kin past i j) := by
  obtain ⟨f, family, -⟩ := get?_eq_some_iff.mp there
  have earlier : (∃ m ∈ past, ∃ j, m.event = .cancel j ∧ Kin (past ++ [⟨s, e⟩]) i j ∧ m.before.now = x) ↔
      ∃ m ∈ past, ∃ j, m.event = .cancel j ∧ Kin past i j ∧ m.before.now = x := by
    refine exists_congr fun m => and_congr_right fun member => exists_congr fun j =>
      and_congr_right fun cancels => and_congr_left fun _ => ?_
    obtain ⟨g, held⟩ := tabled.held m member j cancels
    exact tabled.kin_step step family held
  have last : (∃ j, e = .cancel j ∧ Kin (past ++ [⟨s, e⟩]) i j ∧ s.now = x) ↔
      x = s.now ∧ ∃ j, e = .cancel j ∧ Kin past i j := by
    constructor
    · rintro ⟨j, rfl, kin, rfl⟩
      obtain ⟨g, held⟩ := step.of_cancel
      exact ⟨rfl, j, rfl, (tabled.kin_step step family held).mp kin⟩
    · rintro ⟨rfl, j, rfl, kin⟩
      obtain ⟨g, held⟩ := step.of_cancel
      exact ⟨j, rfl, (tabled.kin_step step family held).mpr kin, rfl⟩
  simp only [causes, cancelTimes, Set.mem_insert_iff, Set.mem_ofPred_eq, exists_concat_iff, earlier, last, or_assoc]

theorem Tabled.fired_iff {now : Nat} (tabled : Tabled past s.tokens) (recent : ∀ m ∈ past, m.before.now ≤ now)
    (there : s.tokens.get? i = some t) : t.fired now = true ↔ ∃ x ∈ causes past i t.deadline, x ≤ now := by
  rw [(tabled.shows there).fired]
  constructor
  · rintro (due | ⟨x, cancelled⟩)
    · exact ⟨_, Set.mem_insert .., due⟩
    · obtain ⟨m, member, -, -, -, rfl⟩ := id cancelled
      exact ⟨_, Set.mem_insert_of_mem _ cancelled, recent m member⟩
  · rintro ⟨x, rfl | cancelled, come⟩
    · exact .inl come
    · exact .inr ⟨x, cancelled⟩

/-- Nothing that happens disturbs a wait, as long as time does not pass over it. -/
theorem Wait.Prompt.step (prompt : w.Prompt past s.now d) (tabled : Tabled past s.tokens) (step : s.Step e s')
    (there : s.tokens.get? w.token = some t)
    (waits : w.ended = none → ∀ x ∈ causes past w.token d, s'.now ≤ max w.begun x) :
    w.Prompt (past ++ [⟨s, e⟩]) s'.now d := by
  have later := step.now_le
  constructor
  · exact Nat.le_trans prompt.begun later
  · intro r ended
    obtain ⟨before, x, ⟨cause, least⟩, rfl⟩ := prompt.ended r ended
    refine ⟨Nat.le_trans before later, x, ⟨(tabled.causes_step step there).mpr (.inl cause), ?_⟩, rfl⟩
    intro y member
    rcases (tabled.causes_step step there).mp member with old | ⟨rfl, -⟩
    · exact least old
    · exact Nat.le_trans (Nat.le_max_right ..) before
  · intro pending x member
    rcases (tabled.causes_step step there).mp member with old | ⟨rfl, j, rfl, -⟩
    · exact waits pending x old
    · cases step with
      | deal => exact Nat.le_max_right ..

theorem Wait.Prompt.new {now : Nat} : Wait.Prompt past now d { token := i, begun := now } :=
  ⟨Nat.le_refl _, nofun, fun _ _ _ => Nat.le_max_left ..⟩

theorem Wait.Prompt.resolve {now : Nat} (prompt : w.Prompt past now d) (pending : w.ended = none)
    (fired : ∃ x ∈ causes past w.token d, x ≤ now) :
    Wait.Prompt past now d { w with ended := some now } := by
  obtain ⟨x, least⟩ := exists_isLeast_causes past w.token d
  obtain ⟨y, cause, come⟩ := fired
  have waited := prompt.pending pending x least.1
  have begun := prompt.begun
  have first := least.2 cause
  refine ⟨begun, fun r ended => ?_, nofun⟩
  cases ended
  refine ⟨Nat.le_refl _, x, least, ?_⟩
  change now = max w.begun x
  omega

/-- What has not fired will not do so before its deadline, unless it is cancelled. -/
theorem Tabled.causes_later {now : Nat} (tabled : Tabled past s.tokens) (recent : ∀ m ∈ past, m.before.now ≤ now)
    (there : s.tokens.get? i = some t) (unfired : t.fired now = false) (due : later ≤ t.deadline) :
    ∀ x ∈ causes past i t.deadline, later ≤ x := by
  rintro x (rfl | cancelled)
  · exact due
  · obtain ⟨m, member, -, -, -, rfl⟩ := id cancelled
    have fired := (tabled.fired_iff recent there).mpr ⟨_, Set.mem_insert_of_mem _ cancelled, recent m member⟩
    exact nomatch fired.symm.trans unfired

theorem Timed.prompt (timed : Timed { clock } past s) :
    ∀ w ∈ s.waits, ∃ t, s.tokens.get? w.token = some t ∧ w.Prompt past s.now t.deadline := by
  generalize begun : ({ clock } : Scene) = start at timed
  induction timed with
  | start =>
    subst begun
    nofun
  | @step past s s' e timed stepped ih =>
    subst begun
    have tabled := timed.tabled
    have recent := timed.now_le.2
    have step := Scene.Step.of_step? stepped
    have grown := timed.step stepped
    -- A wait that goes on as it is, is prompt after the step.
    have keeps : ∀ w ∈ s.waits, ∀ t, s.tokens.get? w.token = some t → w.Prompt past s.now t.deadline →
        (w.ended = none → ∀ x ∈ causes past w.token t.deadline, s'.now ≤ max w.begun x) →
        ∃ t', s'.tokens.get? w.token = some t' ∧ w.Prompt (past ++ [⟨s, e⟩]) s'.now t'.deadline := by
      intro w member t there prompt waits
      have still := prompt.step tabled step there waits
      rcases step.get? there with kept | ⟨cancelled, -⟩
      · exact ⟨t, kept, still⟩
      · exact ⟨t.cancel, cancelled, still⟩
    have calm : s'.now = s.now → ∀ w ∈ s.waits,
        ∃ t', s'.tokens.get? w.token = some t' ∧ w.Prompt (past ++ [⟨s, e⟩]) s'.now t'.deadline := by
      intro same w member
      obtain ⟨t, there, prompt⟩ := ih w member
      exact keeps w member t there prompt fun pending x cause => same ▸ prompt.pending pending x cause
    cases step with
    | deal deals => exact calm rfl
    | @wait i t there =>
      intro w member
      rcases List.mem_append.mp member with old | new
      · exact calm rfl w old
      · cases List.mem_singleton.mp new
        exact ⟨t, there, .new⟩
    | @resolve k w found pending fired =>
      intro v member
      rcases List.mem_or_eq_of_mem_set member with old | rfl
      · exact calm rfl v old
      · have member := List.mem_of_getElem? found
        obtain ⟨t, there, prompt⟩ := calm rfl w member
        refine ⟨t, there, prompt.resolve pending ?_⟩
        have fires : t.fired s.now = true := by simpa [Scene.fired, there] using fired
        exact (grown.tabled.fired_iff grown.now_le.2 there).mp fires
    | @pass millis free =>
      -- Time may not pass over a wait whose token has fired, nor over the deadline of one whose token has not.
      intro w member
      obtain ⟨t, there, prompt⟩ := ih w member
      refine keeps w member t there prompt fun pending x cause => ?_
      obtain ⟨unfired, u, found, due⟩ := free w member pending
      cases there.symm.trans found
      have later := tabled.causes_later recent there (by simpa [Scene.fired, there] using unfired) due x cause
      exact Nat.le_trans later (Nat.le_max_right ..)

theorem Timed.awaited (timed : Timed start past s) :
    ∀ m ∈ past, ∀ i, m.event = .wait i → ∃ w ∈ s.waits, w.token = i ∧ w.begun = m.before.now := by
  induction timed with
  | start => nofun
  | @step past s s' e _ stepped ih =>
    intro m member i awaits
    rcases List.mem_append.mp member with old | new
    · obtain ⟨w, there, token, begun⟩ := ih m old i awaits
      cases Scene.Step.of_step? stepped with
      | wait => exact ⟨w, List.mem_append_left _ there, token, begun⟩
      | @resolve k v found =>
        by_cases own : w = v
        · subst own
          exact ⟨_, List.mem_set (List.getElem?_eq_some_iff.mp found).1 _, token, begun⟩
        · obtain ⟨place, here⟩ := List.mem_iff_getElem?.mp there
          have other : k ≠ place := fun same => own (Option.some.inj (here.symm.trans (same ▸ found)))
          refine ⟨w, List.mem_iff_getElem?.mpr ⟨place, ?_⟩, token, begun⟩
          rw [List.getElem?_set_ne other]
          exact here
      | _ => exact ⟨w, there, token, begun⟩
    · cases List.mem_singleton.mp new
      cases awaits
      cases Scene.Step.of_step? stepped with
      | deal deals =>
        cases deals with
        | create born => cases born
      | wait => exact ⟨_, List.mem_append_right _ (List.mem_singleton_self _), rfl, rfl⟩

/-- How much has to happen at least until that time: each wait may have to end, and each millisecond to pass. -/
def Scene.ahead (s : Scene) (later : Nat) : Nat :=
  (later - s.now) + s.waits.countP fun w => w.ended.isNone

theorem Scene.next (held : ∀ w ∈ s.waits, ∃ t, s.tokens.get? w.token = some t) (before : s.now < later) :
    ∃ e s', s.step? e = some s' ∧ e.Quiet ∧ s'.now ≤ later ∧ s'.ahead later < s.ahead later ∧
      ∀ w ∈ s'.waits, ∃ t, s'.tokens.get? w.token = some t := by
  by_cases stuck : ∃ w ∈ s.waits, w.ended = none ∧ s.fired w.token = true
  · obtain ⟨w, member, pending, fired⟩ := stuck
    obtain ⟨k, found⟩ := List.mem_iff_getElem?.mp member
    obtain ⟨bound, here⟩ := List.getElem?_eq_some_iff.mp found
    refine ⟨.resolve k, _, step?_resolve found pending fired, trivial, Nat.le_of_lt before, ?_, ?_⟩
    · have counted : 0 < s.waits.countP fun w => w.ended.isNone :=
        List.countP_pos_iff.mpr ⟨w, member, by simp [pending]⟩
      simp only [ahead, now, List.countP_set bound, here, pending, Option.isNone_none, Option.isNone_some,
        if_true, Bool.false_eq_true, if_false]
      omega
    · intro v there
      rcases List.mem_or_eq_of_mem_set there with old | rfl
      · exact held v old
      · exact held w member
  · refine ⟨.pass 1, _, step?_pass ?_, trivial, before, ?_, held⟩
    · intro w member pending
      have unfired : s.fired w.token = false := by
        simpa using fun fired => stuck ⟨w, member, pending, fired⟩
      obtain ⟨t, there⟩ := held w member
      refine ⟨unfired, t, there, ?_⟩
      simp only [fired, there, Option.any_some, Token.fired, Bool.or_eq_false_iff,
        decide_eq_false_iff_not] at unfired
      omega
    · simp only [ahead, now] at before ⊢
      omega

theorem Scene.goesOn (held : ∀ w ∈ s.waits, ∃ t, s.tokens.get? w.token = some t) (later : Nat)
    (before : s.now ≤ later) :
    ∃ more s', Timed s more s' ∧ s'.now = later ∧ ∀ m ∈ more, m.event.Quiet := by
  induction ahead : s.ahead later using Nat.strongRecOn generalizing s with
  | ind n ih =>
    rcases Nat.eq_or_lt_of_le before with now | before
    · exact ⟨[], s, .start, now, nofun⟩
    · obtain ⟨e, s', stepped, quiet, reached, less, held'⟩ := Scene.next held before
      obtain ⟨more, last, timed, there, quiets⟩ := ih _ (ahead ▸ less) held' reached rfl
      refine ⟨[⟨s, e⟩] ++ more, last, (Timed.single stepped).append timed, there, ?_⟩
      intro m member
      rcases List.mem_append.mp member with first | rest
      · cases List.mem_singleton.mp first
        exact quiet
      · exact quiets m rest

theorem Timed.accounted (timed : Timed { clock } past s) : Accounted past s := by
  have prompt := timed.prompt
  constructor
  · intro i made
    obtain ⟨r, d, descends⟩ := timed.tabled.descends made
    obtain ⟨t, there, -⟩ := timed.tabled.get? descends
    exact ⟨t, there, timed.tabled.shows there⟩
  · exact prompt
  · exact timed.awaited
  · intro m member i t there
    obtain ⟨before, after, split⟩ := List.append_of_mem member
    obtain ⟨earlier, s', stepped, later⟩ := timed.at_moment split
    have rest : Timed m.before ([m] ++ after) s := (Timed.single stepped).append later
    exact rest.get? there
  · intro before m after split
    obtain ⟨earlier, s', stepped, later⟩ := timed.at_moment split
    refine ⟨s', stepped, fun i t there other => ?_⟩
    rcases (Scene.Step.of_step? stepped).get? there with kept | ⟨-, j, f, cancels, named, family⟩
    · exact kept
    · exact (other j cancels (earlier.tabled.kin_iff.mpr ⟨f, family, named⟩)).elim
  · exact fun later => Scene.goesOn (fun w member => (prompt w member).imp fun t found => found.1) later

end

end FrameHost.Tokens
