import FrameHost.Proofs.Http.Draining

/-! Shutdowns that give up.

A shutdown that waits sees the flag only when it looks. If another run claims the frame before that, the
shutdown takes the flag of this run for that of the run it told to stop, and may give up on a run that has
long departed. If nothing happens between the fall of the flag and the looks at it, a shutdown gives up only
on a run that still holds the frame. -/

set_option autoImplicit false

namespace FrameHost.Http

def Event.looks : Event → Bool
  | .observe _ => true
  | _ => false

def StopStage.waits : StopStage → Bool
  | .draining _ => true
  | _ => false

/-- While the flag is down and somebody waits for that, nothing happens but looks at the flag. -/
def Moment.Attentive (m : Moment) : Prop :=
  m.before.running = false → m.event.looks = false → ∀ stop ∈ m.before.stops, stop.stage.waits = false

instance (m : Moment) : Decidable m.Attentive :=
  inferInstanceAs (Decidable (m.before.running = false → m.event.looks = false → ∀ stop ∈ m.before.stops, _))

/-- A shutdown waited for the run that it had told to stop, and gave up at a moment. -/
structure GaveUp (s r : Nat) (past waited : List Moment) (last : Moment) (after : List Moment) : Prop where
  split : past = waited ++ last :: after
  told : ∃ before took rest, Took s waited before took rest ∧ took.happenings = [.told s r]
  returns : Returns s last false

namespace Frame

/-- While the frame is running, all shutdowns that wait have told the current run to stop. -/
def Aimed (f : Frame) : Prop :=
  ∀ s r, f.stopStage? s = some (.draining r) → f.running = true → f.current = some r

section
variable {now s : Nat} {f f' : Frame} {e : Event} {happenings : List Happening}

theorem Step.of_expire (step : Step now f (.expire s) f' happenings) :
    ∃ r, f.stopStage? s = some (.draining r) := by
  cases step with
  | stop found move =>
    cases move with
    | expire draining => exact ⟨_, by rw [stopStage?, found, Option.map_some, draining]⟩
  | work _ work => cases work

theorem Aimed.step (aimed : f.Aimed) (step : Step now f e f' happenings)
    (attentive : (⟨now, f, e, happenings, f'⟩ : Moment).Attentive) : f'.Aimed := by
  intro s r waits busy
  -- A shutdown that comes to a stage other than one of waiting is none of these.
  have kept {k : Nat} {stop : Stop} (next : Stop) (found : f.stops[k]? = some stop)
      (stages : f'.stopStage? s = (f.setStop k next).stopStage? s)
      (waiting : ∀ r, next.stage = .draining r → stop.stage = .draining r) :
      f.stopStage? s = some (.draining r) := by
    rw [stages, stopStage?_setStop found] at waits
    split at waits
    · rename_i same
      rw [same, stopStage?, found, Option.map_some, waiting r (Option.some.inj waits)]
    · exact waits
  cases step with
  | spawn | refuse | suppress | work => exact aimed s r waits busy
  | release => cases busy
  | claim _ _ idle =>
    -- Nobody was left to wait when the frame was claimed.
    obtain ⟨stop, found, draining⟩ := Option.map_eq_some_iff.mp waits
    have none := attentive idle rfl stop (List.mem_of_getElem? found)
    rw [draining] at none
    cases none
  | callShutdown =>
    rw [stopStage?, List.getElem?_append] at waits
    split at waits
    · exact aimed s r waits busy
    · rw [List.getElem?_singleton] at waits
      split at waits <;> cases waits
  | @tell k i stop found called _ current =>
    have stages : f.stopStage? s = some (.draining r) ∨ r = i := by
      have waits := (stopStage?_setStop found { stop with stage := .draining i } s).symm.trans waits
      split at waits
      · cases waits
        exact .inr rfl
      · exact .inl waits
    rcases stages with before | rfl
    · exact aimed s r before busy
    · exact current
  | request found => exact aimed s r (kept _ found rfl fun i waiting => by cases waiting) busy
  | stop found move =>
    refine aimed s r (kept _ found rfl fun i waiting => ?_) busy
    cases move with
    | cancel => exact waiting
    | observe | expire => cases waiting

end

section
variable {id : FrameId} {bindAddress : String} {past : List Moment} {f : Frame} {s : Nat}

theorem Life.aimed (life : Life (fresh id bindAddress) past f) (attentive : ∀ m ∈ past, m.Attentive) :
    f.Aimed := by
  induction life with
  | start => exact fun s r waits => by simp [stopStage?, fresh] at waits
  | step life later stepped ih =>
    exact (ih fun m member => attentive m (List.mem_append_left _ member)).step (Step.of_step stepped)
      (attentive _ (by simp))

theorem Life.gave_up (life : Life (fresh id bindAddress) past f) {stop : Stop}
    (found : f.stops[s]? = some stop) (late : stop.stage = .returned false) :
    ∃ r waited last after, GaveUp s r past waited last after ∧
      last.before.stopStage? s = some (.draining r) := by
  have account := life.account s
  rw [stopStage?, found, Option.map_some, late] at account
  cases account with
  | @answered before between after took last r _ atLock told returns =>
    have whole : past = (before ++ took :: between) ++ last :: after := by simp [atLock.split]
    obtain ⟨waited, step⟩ := life.at_moment whole
    cases returns with
    | expires event here fired =>
      obtain ⟨i, draining⟩ := (event ▸ step).of_expire
      have account := waited.account s
      rw [draining] at account
      cases account with
      | draining took told =>
        exact ⟨i, _, last, after, ⟨whole, ⟨_, _, _, took, told⟩, .expires event here fired⟩, draining⟩

/-- If all look in time, a shutdown gives up only on a run that holds the frame still. -/
theorem Life.gave_up_holder (life : Life (fresh id bindAddress) past f)
    (attentive : ∀ m ∈ past, m.Attentive) {stop : Stop} (found : f.stops[s]? = some stop)
    (late : stop.stage = .returned false) :
    ∃ r waited last after, GaveUp s r past waited last after ∧ Holds r waited := by
  obtain ⟨r, waited, last, after, gaveUp, draining⟩ := life.gave_up found late
  obtain ⟨earlier, -⟩ := life.at_moment gaveUp.split
  refine ⟨r, waited, last, after, gaveUp, ?_⟩
  have before := fun m member => attentive m (gaveUp.split ▸ List.mem_append_left _ member)
  have now := attentive last (gaveUp.split ▸ List.mem_append_cons_self)
  cases busy : last.before.running with
  | true =>
    obtain ⟨i, holds⟩ := earlier.holder busy
    have current := earlier.aimed before s r draining busy
    cases (earlier.of_holds holds).2.1.symm.trans current
    exact holds
  | false =>
    -- The shutdown would have looked, and would not have given up.
    obtain ⟨stop, here, waits⟩ := Option.map_eq_some_iff.mp draining
    cases gaveUp.returns with
    | expires event =>
      have none := now busy (by rw [event]; rfl) stop (List.mem_of_getElem? here)
      rw [waits] at none
      cases none

end

/-- A run that is told to stop and is through only after the deadline. -/
def slowToStop : List (Nat × Event) :=
  [(0, .spawn), (0, .claim 0), (0, .bind 0 "127.0.0.1:8080"), (2, .callShutdown { deadline := 60 }),
    (2, .take 0), (60, .expire 0), (61, .drain 0), (61, .clear 0), (62, .release 0)]

example : ((fresh (.ofName "a") "127.0.0.1:8080").live? 0 slowToStop).map (fun life =>
    (decide (∀ m ∈ life.1, m.Attentive), life.2.stops.map Stop.stage)) =
      some (true, [.returned false]) := by
  decide

/-- A run departs long before the deadline, and another claims the frame before the shutdown looks. -/
def claimedAgain : List (Nat × Event) :=
  [(0, .spawn), (0, .claim 0), (0, .bind 0 "127.0.0.1:8080"), (2, .callShutdown { deadline := 60 }),
    (2, .take 0), (3, .drain 0), (3, .clear 0), (4, .release 0), (4, .spawn), (4, .claim 1),
    (5, .bind 1 "127.0.0.1:8080"), (60, .expire 0)]

/-- A shutdown may give up although the run that it told to stop let go of the frame before the token
fired. -/
theorem gave_up_late :
    ¬∀ (id : FrameId) (bindAddress : String) (past : List Moment) (f : Frame) (s r : Nat) (stop : Stop),
      Life (fresh id bindAddress) past f → f.stops[s]? = some stop → stop.stage = .returned false →
      (∃ took ∈ past, took.happenings = [.told s r]) → ∀ m ∈ past, m.event = .release r →
        (m.before.stops[s]?).any (·.token.fired m.now) = true := by
  intro kept
  obtain ⟨past, f, lived⟩ :
      ∃ past f, (fresh (.ofName "a") "127.0.0.1:8080").live? 0 claimedAgain = some (past, f) := ⟨_, _, rfl⟩
  have facts : ∀ life ∈ (fresh (.ofName "a") "127.0.0.1:8080").live? 0 claimedAgain,
      life.2.stops.map Stop.stage = [.returned false] ∧
      (∃ took ∈ life.1, took.happenings = [.told 0 0]) ∧
      ∃ m ∈ life.1, m.event = .release 0 ∧ (m.before.stops[0]?).any (·.token.fired m.now) = false := by
    decide
  obtain ⟨stages, told, m, member, released, early⟩ := facts _ lived
  obtain ⟨stop, found, late⟩ : ∃ stop, f.stops[0]? = some stop ∧ stop.stage = .returned false := by
    refine Option.map_eq_some_iff.mp ?_
    rw [← List.getElem?_map, stages]
    rfl
  have fired := kept _ _ past f 0 0 stop (Life.start.of_live? (by simp) lived) found late told m member released
  cases early.symm.trans fired

end Frame

end FrameHost.Http
