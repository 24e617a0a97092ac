import FrameHost.Proofs.Http.Ownership

/-! Requests to stop that wait for a run.

A shutdown that finds the frame stopped leaves its deadline behind. There is one place for it: the next
shutdown replaces it, and the first run that is not turned away takes it, whether it heeds it or not. -/

set_option autoImplicit false

namespace FrameHost.Http

/-- The deadline of the shutdown that finds the frame stopped at a moment. -/
def Moment.request? (m : Moment) : Option Nat :=
  match m.happenings with
  | [.foundStopped s] => (m.before.stops[s]?).map (·.token.deadline)
  | _ => none

/-- Whether a happening puts an end to a request that waits. -/
def Happening.endsRequest : Happening → Bool
  | .suppressed _ | .claimed _ | .told _ _ | .foundStopped _ => true
  | _ => false

/-- A request to stop that runs before a deadline are to heed. -/
def Waits (deadline : Nat) : List Moment → Prop :=
  Since (fun m => m.request? = some deadline) (fun m => m.happenings.any Happening.endsRequest = true)

namespace Frame

section
variable {now : Nat} {f f' : Frame} {e : Event} {happenings : List Happening}

theorem Step.pending_iff (step : Step now f e f' happenings) (deadline : Nat) :
    f'.pending = some deadline ↔
      (⟨now, f, e, happenings, f'⟩ : Moment).request? = some deadline ∨
        (f.pending = some deadline ∧ ¬happenings.any Happening.endsRequest = true) := by
  -- Claims and what shutdowns do at the lock write the place; all other events leave it alone.
  cases step with
  | request found => simp [Moment.request?, Happening.endsRequest, found]
  | work _ work => cases work <;> simp [Moment.request?, Happening.endsRequest, setRun]
  | stop _ move => cases move <;> simp [Moment.request?, Happening.endsRequest, setStop]
  | _ => simp [Moment.request?, Happening.endsRequest, setRun]

theorem Step.claim_cases {r : Nat} (step : Step now f (.claim r) f' happenings) :
    (happenings = [.alreadyRunning r] ∧ f.running = true ∧ f'.running = true ∧
      f'.stage? r = some .returned) ∨
    (∃ deadline, happenings = [.suppressed r] ∧ f.running = false ∧ f.pending = some deadline ∧
      now < deadline ∧ f'.running = false ∧ f'.stage? r = some .returned) ∨
    (happenings = [.claimed r] ∧ f.running = false ∧
      (∀ deadline, f.pending = some deadline → deadline ≤ now) ∧ f'.running = true) := by
  cases step with
  | refuse found _ busy =>
    exact .inl ⟨rfl, busy, busy, (stage?_setRun found _ r).trans (if_pos rfl)⟩
  | suppress found _ idle pending early =>
    exact .inr (.inl ⟨_, rfl, idle, pending, early, idle,
      (stage?_setRun found _ r).trans (if_pos rfl)⟩)
  | claim _ _ idle lapsed => exact .inr (.inr ⟨rfl, idle, lapsed, rfl⟩)
  | work _ work => cases work
  | stop _ move => cases move

end

section
variable {id : FrameId} {bindAddress : String} {past : List Moment} {f : Frame}

theorem Life.waits_iff (life : Life (fresh id bindAddress) past f) (deadline : Nat) :
    Waits deadline past ↔ f.pending = some deadline := by
  induction life with
  | start => exact iff_of_false not_since_nil nofun
  | step life later stepped ih =>
    rw [(Step.of_step stepped).pending_iff deadline, ← ih]
    exact since_concat

/-- A run serves unless another one does or a request still waits for it. One that does not serve
returns and leaves the flag alone. -/
theorem Life.claim_account (life : Life (fresh id bindAddress) past f) {before after : List Moment}
    {m : Moment} {r : Nat} (split : past = before ++ m :: after) (claims : m.event = .claim r) :
    (m.happenings = [.claimed r] ↔
      m.before.running = false ∧ ∀ deadline, Waits deadline before → deadline ≤ m.now) ∧
    (m.happenings = [.suppressed r] ↔
      m.before.running = false ∧ ∃ deadline, Waits deadline before ∧ m.now < deadline) ∧
    (m.happenings ≠ [.claimed r] →
      m.after.running = m.before.running ∧ m.after.stage? r = some .returned) := by
  obtain ⟨earlier, step⟩ := life.at_moment split
  have waits := earlier.waits_iff
  rcases (claims ▸ step).claim_cases with ⟨refused, busy, still, returned⟩ |
      ⟨deadline, suppressed, idle, pending, early, still, returned⟩ | ⟨claimed, idle, lapsed, -⟩
  · -- Turned away: another run has the flag up, whatever waits.
    simp [refused, busy, still, returned]
  · -- It heeds the one request that there is room for.
    have waiting : ∃ deadline, Waits deadline before ∧ m.now < deadline :=
      ⟨deadline, (waits deadline).mpr pending, early⟩
    refine ⟨?_, ?_, fun _ => ⟨still.trans idle.symm, returned⟩⟩
    · simpa [suppressed, idle] using waiting
    · simpa [suppressed, idle] using waiting
  · -- It serves, as no request waits or the one that does has lapsed.
    have spent : ∀ deadline, Waits deadline before → deadline ≤ m.now := fun deadline waiting =>
      lapsed deadline ((waits deadline).mp waiting)
    refine ⟨?_, ?_, fun turnedAway => (turnedAway claimed).elim⟩
    · simpa [claimed, idle] using spent
    · simpa [claimed, idle] using spent

end

/-- Two shutdowns find the frame stopped, and the second leaves less time to the run that follows. -/
def shortened : List (Nat × Event) :=
  [(0, .callShutdown { deadline := 5000 }), (0, .take 0), (0, .callShutdown { deadline := 10 }),
    (0, .take 1), (20, .spawn), (20, .claim 0)]

theorem claim_account_shortened :
    ∃ before m f, (fresh (.ofName "a") "127.0.0.1:8080").live? 0 shortened = some (before ++ [m], f) ∧
      m.event = .claim 0 ∧ m.happenings = [.claimed 0] ∧ m.now = 20 ∧
      (∀ deadline, Waits deadline before → deadline ≤ 20) := by
  obtain ⟨before, m, f, lived, claims, serves, now⟩ :
      ∃ before m f, (fresh (.ofName "a") "127.0.0.1:8080").live? 0 shortened = some (before ++ [m], f) ∧
        m.event = .claim 0 ∧ m.happenings = [.claimed 0] ∧ m.now = 20 :=
    ⟨[_, _, _, _, _], _, _, rfl, rfl, rfl, rfl⟩
  have life := Life.start.of_live? (by simp) lived
  have account := life.claim_account rfl claims
  exact ⟨before, m, f, lived, claims, serves, now, now ▸ (account.1.mp serves).2⟩

/-- Two runs that were there before a shutdown found the frame stopped. -/
def twoRunsAfterShutdown : List (Nat × Event) :=
  [(0, .spawn), (0, .spawn), (0, .callShutdown { deadline := 5000 }), (0, .take 0), (0, .claim 0),
    (0, .claim 1)]

/-- That a shutdown found the frame stopped does not keep every run from serving that claims before its
deadline. -/
theorem request_spent :
    ¬∀ (id : FrameId) (bindAddress : String) (past before between after : List Moment)
      (asked m : Moment) (f : Frame) (r deadline : Nat), Life (fresh id bindAddress) past f →
      past = before ++ asked :: between ++ m :: after → asked.request? = some deadline →
      m.event = .claim r → m.now < deadline → m.happenings ≠ [.claimed r] := by
  intro heeded
  have lived : ∃ before asked between m f,
      (fresh (.ofName "a") "127.0.0.1:8080").live? 0 twoRunsAfterShutdown =
        some (before ++ asked :: between ++ [m], f) ∧
      asked.request? = some 5000 ∧ m.event = .claim 1 ∧ m.now = 0 ∧ m.happenings = [.claimed 1] :=
    ⟨[_, _, _], _, [_], _, _, rfl, rfl, rfl, rfl, rfl⟩
  obtain ⟨before, asked, between, m, f, lived, request, claims, now, serves⟩ := lived
  have life := Life.start.of_live? (by simp) lived
  -- The first run has used the request up, so the second one serves well before the deadline.
  exact heeded _ _ _ before between [] asked m f 1 5000 life rfl request claims (by omega) serves

end Frame

end FrameHost.Http
