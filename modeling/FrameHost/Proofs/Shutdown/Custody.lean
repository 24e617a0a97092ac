import FrameHost.Proofs.Shutdown.Publication
import FrameHost.Proofs.Shutdown.Timing

/-! Who holds tokens of the calls of a controller, and when these fire.

A call makes a token of its own. Its sequence gives a clone to each frame and to the finalizer and cancels
the token when it closes. Holders may pass on clones as they like, but cancel none. All clones of a token
are one family, so that what a holder sees is the token of the call itself. -/

set_option autoImplicit false

namespace FrameHost

namespace Shutdown

/-- What a happening does to the tokens. -/
def Happening.hands (tokens : Tokens) : Happening → Tokens
  | .began k frames _ => { tokens with tokens := tokens.tokens ++ List.replicate frames k }
  | .finalizerCalled k _ _ => { tokens with tokens := tokens.tokens ++ [k] }
  | .cancelled k => tokens.cancelFamily k
  | _ => tokens

def Moment.hands (m : Moment) (tokens : Tokens) : Tokens :=
  m.happenings.foldl Happening.hands <|
    match m.request? with
    | some r => tokens.create r.deadline
    | none => tokens

/-- The tokens that may be about after a run, if holders clone them and do not cancel them. -/
inductive Handled : List Moment → Tokens → Prop where
  | start : Handled [] {}
  | step {past : List Moment} {tokens : Tokens} (handled : Handled past tokens) (m : Moment) :
      Handled (past ++ [m]) (m.hands tokens)
  | clone {past : List Moment} {tokens tokens' : Tokens} {i : Nat} (handled : Handled past tokens)
      (cloned : tokens.clone? i = some tokens') : Handled past tokens'

/-- The call waits for its turn, or its frames or its finalizer have not ended. -/
def Call.Working (c : Call) : Prop :=
  c.phase = .queued ∨ c.phase = .stopping ∨ c.phase = .finalizing ∨ ∃ stop ∈ c.stops, stop.ended = false

theorem Handled.append {past : List Moment} {tokens : Tokens} (handled : Handled past tokens)
    (more : List Moment) : Handled (past ++ more) (more.foldl (fun tokens m => m.hands tokens) tokens) := by
  induction more generalizing past tokens with
  | nil => simpa using handled
  | cons m rest ih => simpa using ih (handled.step m)

section
variable {registry : Registry} {finalizer : Option Nat} {k : Nat} {c c' : Call} {e : Event}
  {happenings : List Happening} {tokens : Tokens}

theorem Call.Step.token_cases (step : c.Step registry finalizer k e c' happenings) :
    (c'.token = c.token ∧ (.cancel ∈ c'.phase.closed ↔ .cancel ∈ c.phase.closed) ∧
      ∀ h ∈ happenings, ∀ j, h ≠ .cancelled j) ∨
    (c'.token = c.token.cancel ∧ .cancel ∈ c'.phase.closed ∧ happenings = [.cancelled k]) := by
  cases step with
  | acquire queued => exact .inl ⟨rfl, by simp [Call.begun, Phase.closed, queued], by simp⟩
  | work work =>
    refine .inl ?_
    cases work with
    | stop found move => exact ⟨rfl, Iff.rfl, by cases move <;> simp⟩
    | finalize stopping =>
      refine ⟨rfl, by simp [Phase.closed, stopping], fun h member j same => ?_⟩
      subst same
      rcases List.mem_append.mp member with failed | called
      · exact absurd failed (not_mem_failures fun i message => Happening.noConfusion)
      · cases List.mem_singleton.mp called
    | skip stopping =>
      refine ⟨rfl, by simp [Phase.closed, stopping], fun h member j same => ?_⟩
      subst same
      exact absurd member (not_mem_failures fun i message => Happening.noConfusion)
    | endFinalizer finalizing => exact ⟨rfl, by simp [Phase.closed, finalizing], by simp⟩
  | @close next closing =>
    cases next with
    | cancel => exact .inr ⟨rfl, by simp [Call.close, Phase.closed], rfl⟩
    | _ => exact .inl ⟨rfl, by simp [Call.close, Phase.closed, closing], by simp [Call.closes]⟩
  | withdraw queued => exact .inl ⟨rfl, by simp [Phase.closed, queued], by simp⟩
  | leave inside =>
    refine .inl ⟨rfl, ?_, by simp⟩
    rcases inside with phase | phase <;> simp [Phase.closed, phase]

theorem families_hands (quiet : ∀ h ∈ happenings, ∀ j, h ≠ .cancelled j) :
    (happenings.foldl Happening.hands tokens).families = tokens.families := by
  induction happenings generalizing tokens with
  | nil => rfl
  | cons h rest ih =>
    rw [List.foldl_cons, ih fun x member => quiet x (List.mem_cons_of_mem _ member)]
    have plain := quiet h (List.mem_cons_self ..)
    cases h with
    | cancelled j => exact (plain j rfl).elim
    | _ => rfl

theorem family?_hands {i f : Nat} (family : tokens.family? i = some f) :
    (happenings.foldl Happening.hands tokens).family? i = some f := by
  induction happenings generalizing tokens with
  | nil => exact family
  | cons h rest ih =>
    refine ih ?_
    have bound := Tokens.family?_lt family
    cases h with
    | began => exact (List.getElem?_append_left bound).trans family
    | finalizerCalled => exact (List.getElem?_append_left bound).trans family
    | _ => exact family

theorem families_hands_other {f : Nat} (own : ∀ h ∈ happenings, h.call? ≠ some f) :
    (happenings.foldl Happening.hands tokens).families[f]? = tokens.families[f]? := by
  induction happenings generalizing tokens with
  | nil => rfl
  | cons h rest ih =>
    rw [List.foldl_cons, ih fun x member => own x (List.mem_cons_of_mem _ member)]
    have apart := own h (List.mem_cons_self ..)
    cases h with
    | cancelled j =>
      have other : j ≠ f := fun same => apart (congrArg some same)
      exact Tokens.getElem?_cancelFamily.trans (if_neg other)
    | _ => rfl

theorem families_bound (known : ∀ f ∈ tokens.tokens, f < tokens.families.length)
    (calls : ∀ h ∈ happenings, ∀ j, h.call? = some j → j < tokens.families.length) :
    ∀ f ∈ (happenings.foldl Happening.hands tokens).tokens,
      f < (happenings.foldl Happening.hands tokens).families.length := by
  induction happenings generalizing tokens with
  | nil => exact known
  | cons h rest ih =>
    have first := calls h (List.mem_cons_self ..)
    have others := fun x member => calls x (List.mem_cons_of_mem h member)
    cases h with
    | began k frames =>
      refine ih (fun f member => ?_) others
      rcases List.mem_append.mp member with old | new
      · exact known f old
      · rw [List.eq_of_mem_replicate new]
        exact first k rfl
    | finalizerCalled k =>
      refine ih (fun f member => ?_) others
      rcases List.mem_append.mp member with old | new
      · exact known f old
      · rw [List.mem_singleton.mp new]
        exact first k rfl
    | cancelled k =>
      have same : (tokens.cancelFamily k).families.length = tokens.families.length := List.length_modify ..
      refine ih ?_ ?_
      · change ∀ f ∈ tokens.tokens, f < (tokens.cancelFamily k).families.length
        rw [same]
        exact known
      · change ∀ h ∈ rest, ∀ j, h.call? = some j → j < (tokens.cancelFamily k).families.length
        rw [same]
        exact others
    | _ => exact ih known others

end

namespace Controller
variable {registry : Registry} {clock : Clock} {s s' start : Controller} {e : Event}
  {happenings : List Happening} {past : List Moment} {k : Nat} {c : Call} {tokens : Tokens} {m : Moment}

theorem Run.split (run : Run start past s) {before after : List Moment}
    (split : past = before ++ m :: after) :
    Run start before m.before ∧ ∃ s', Step m.registry m.clock m.before m.event s' m.happenings := by
  induction run generalizing after with
  | start => simp at split
  | step run later stepped ih =>
    rcases split_concat split with ⟨rfl, rfl, rfl⟩ | ⟨rest, -, same⟩
    · exact ⟨run, _, .of_step stepped⟩
    · exact ih same

theorem Run.nil (run : Run start [] s) : s = start := by
  generalize whole : [] = all at run
  cases run with
  | start => rfl
  | step => simp at whole

theorem Run.last (run : Run start (past ++ [m]) s) :
    Run start past m.before ∧ Step m.registry m.clock m.before m.event s m.happenings := by
  generalize whole : past ++ [m] = all at run
  cases run with
  | start => simp at whole
  | step run later stepped =>
    obtain ⟨rfl, same⟩ := List.append_inj' whole rfl
    cases List.singleton_inj.mp same
    exact ⟨run, .of_step stepped⟩

theorem Run.token_cancelled (run : Run start past s) (unused : start.calls = []) :
    ∀ k c, s.call? k = some c → (c.token.cancelled = true ↔ .cancel ∈ c.phase.closed) := by
  refine Run.calls (P := fun _ _ c => c.token.cancelled = true ↔ .cancel ∈ c.phase.closed) unused ?_ ?_ ?_ run
  · intro past m timeout deadline _ _ _ _ _
    simp [Phase.closed]
  · exact fun _ _ _ _ kept _ _ => kept
  · intro past registry clock before e happenings k c c' kept _ step
    rcases step.token_cases with ⟨same, closed, -⟩ | ⟨now, closed, -⟩
    · rw [same, kept, closed]
    · simp [now, closed, Token.cancel]

/-- The tokens of a controller's calls and the families that are about. -/
structure Kept (s : Controller) (tokens : Tokens) : Prop where
  families : tokens.families = s.calls.map Call.token
  known : ∀ f ∈ tokens.tokens, f < tokens.families.length
  held : ∀ k, k < s.calls.length → ∃ i, tokens.family? i = some k

theorem Kept.step (kept : Kept s tokens) (step : Step registry clock s e s' happenings) :
    Kept s' (Moment.hands ⟨registry, clock, s, e, happenings⟩ tokens) := by
  have sized : tokens.families.length = s.calls.length := by simp [kept.families]
  unfold Moment.hands
  rcases step.calls_cases with ⟨same, -, quiet⟩ | ⟨timeout, deadline, rfl, rfl, made, added⟩ |
      ⟨k, c, c', found, work, changed⟩
  · -- The calls stay as they are, and nothing that happens concerns one of them.
    rw [step.request?_eq_none same]
    refine ⟨?_, families_bound kept.known fun h member j concerned => ?_, fun j made => ?_⟩
    · rw [same, families_hands fun h member j cancelled => ?_, kept.families]
      subst cancelled
      cases quiet _ member
    · cases (quiet h member).symm.trans concerned
    · rw [same] at made
      exact (kept.held j made).imp fun i => family?_hands
  · -- A call is made, and its token is the first of a family of its own.
    obtain ⟨-, rfl⟩ := (Clock.deadline?_eq_some_iff _ _ _).mp made
    simp only [Moment.request?, made, Option.map_some, List.foldl_nil]
    constructor
    · simp [Tokens.create, added, kept.families, Request.deadline]
    · intro f member
      simp only [Tokens.create, List.length_append, List.length_singleton] at member ⊢
      rcases List.mem_append.mp member with old | new
      · exact Nat.lt_succ_of_lt (kept.known f old)
      · rw [List.mem_singleton.mp new]
        exact Nat.lt_succ_self _
    · intro j made
      rw [added, List.length_append, List.length_singleton] at made
      rcases Nat.lt_succ_iff_lt_or_eq.mp made with old | rfl
      · obtain ⟨i, family⟩ := kept.held j old
        exact ⟨i, (List.getElem?_append_left (Tokens.family?_lt family)).trans family⟩
      · exact ⟨tokens.tokens.length, by simp [Tokens.family?, Tokens.create, sized]⟩
  · -- Work on a call touches no family but that of the call.
    have none : Moment.request? ⟨registry, clock, s, e, happenings⟩ = none := by
      have concerned := work.event_call?
      cases e with
      | request => cases concerned
      | _ => rfl
    obtain ⟨bound, here⟩ := List.getElem?_eq_some_iff.mp found
    rw [none]
    refine ⟨List.ext_getElem? fun j => ?_, families_bound kept.known fun h member j concerned => ?_,
      fun j made => ?_⟩
    · rw [changed]
      rcases work.token_cases with ⟨same, -, quiet⟩ | ⟨now, -, rfl⟩
      · rw [families_hands quiet, kept.families, List.map_set, same, List.getElem?_set]
        by_cases own : k = j
        · subst own
          simp [bound, here]
        · simp [own]
      · simp only [List.foldl_cons, List.foldl_nil, Happening.hands, Tokens.getElem?_cancelFamily,
          kept.families, List.map_set, now, List.getElem?_map, List.getElem?_set, List.length_map]
        by_cases own : k = j
        · subst own
          simp [bound, here]
        · simp [own]
    · cases (work.call? h member).symm.trans concerned
      rw [sized]
      exact bound
    · rw [changed, List.length_set] at made
      exact (kept.held j made).imp fun i => family?_hands

theorem Run.kept {defaultTimeout : Duration} (handled : Handled past tokens)
    (run : Run { defaultTimeout } past s) : Kept s tokens := by
  induction handled generalizing s with
  | start =>
    rw [run.nil]
    exact ⟨rfl, nofun, nofun⟩
  | step handled m ih =>
    obtain ⟨before, step⟩ := run.last
    exact (ih before).step step
  | @clone past tokens tokens' i handled cloned ih =>
    obtain ⟨families, known, held⟩ := ih run
    obtain ⟨f, family, rfl⟩ := Option.map_eq_some_iff.mp cloned
    refine ⟨families, fun g member => ?_, fun k made => ?_⟩
    · rcases List.mem_append.mp member with old | new
      · exact known g old
      · rw [List.mem_singleton.mp new]
        exact known f (List.mem_of_getElem? family)
    · obtain ⟨j, there⟩ := held k made
      exact ⟨j, (List.getElem?_append_left (Tokens.family?_lt there)).trans there⟩

theorem Kept.get? (kept : Kept s tokens) {i : Nat} (family : tokens.family? i = some k) :
    ∃ c, s.call? k = some c ∧ tokens.get? i = some c.token := by
  have bound := kept.known k (List.mem_of_getElem? family)
  rw [kept.families, List.length_map] at bound
  refine ⟨s.calls[k], List.getElem?_eq_getElem bound, ?_⟩
  rw [Tokens.get?_eq family, kept.families]
  simp [bound]

/-- No token leaves its family, and only what happens in a call changes the tokens of that call. -/
theorem Kept.hands (kept : Kept s tokens) (step : Step registry clock s e s' happenings) {i : Nat}
    (family : tokens.family? i = some k) :
    (Moment.hands ⟨registry, clock, s, e, happenings⟩ tokens).family? i = some k ∧
      (e.call? ≠ some k → (Moment.hands ⟨registry, clock, s, e, happenings⟩ tokens).get? i = tokens.get? i) := by
  have bound := kept.known k (List.mem_of_getElem? family)
  -- A new family comes after those that there are, and its first token after all tokens.
  have made : ∀ r : Request, (tokens.create r.deadline).family? i = some k ∧
      (tokens.create r.deadline).families[k]? = tokens.families[k]? := fun r =>
    ⟨(List.getElem?_append_left (Tokens.family?_lt family)).trans family, List.getElem?_append_left bound⟩
  have begins : ∃ begun : Tokens, begun.family? i = some k ∧ begun.families[k]? = tokens.families[k]? ∧
      Moment.hands ⟨registry, clock, s, e, happenings⟩ tokens = happenings.foldl Happening.hands begun := by
    unfold Moment.hands
    cases Moment.request? ⟨registry, clock, s, e, happenings⟩ with
    | none => exact ⟨tokens, family, rfl, rfl⟩
    | some r => exact ⟨_, (made r).1, (made r).2, rfl⟩
  obtain ⟨begun, still, same, equal⟩ := begins
  rw [equal]
  refine ⟨family?_hands still, fun other => ?_⟩
  rw [Tokens.get?_eq (family?_hands still), Tokens.get?_eq family, families_hands_other, same]
  intro h member concerned
  rcases step.calls_cases with ⟨-, -, quiet⟩ | ⟨_, _, -, rfl, -⟩ | ⟨j, c, c', -, work, -⟩
  · cases (quiet h member).symm.trans concerned
  · cases member
  · exact other (work.event_call?.trans ((work.call? h member).symm.trans concerned))

theorem Run.working_uncancelled (run : Run start past s) (unused : start.calls = [])
    (found : s.call? k = some c) (working : c.Working) : c.token.cancelled = false := by
  have uncancelled : .cancel ∉ c.phase.closed := by
    rcases working with phase | phase | phase | ⟨stop, member, unended⟩
    · simp [phase, Phase.closed]
    · simp [phase, Phase.closed]
    · simp [phase, Phase.closed]
    · -- A frame that is still at work keeps its sequence at the barrier, unless the call was given up.
      obtain ⟨i, here⟩ := List.mem_iff_getElem?.mp member
      rcases (run.passed unused k c found).pending here unended with phase | phase <;>
        simp [phase, Phase.closed]
  rw [← run.token_cancelled unused k c found] at uncancelled
  exact Bool.eq_false_iff.mpr uncancelled

theorem Run.published_cancelled (run : Run start past s) (unused : start.calls = [])
    (found : s.call? k = some c) {report : Report} (published : .published k report ∈ trace past) :
    c.token.cancelled = true := by
  obtain ⟨d, known⟩ := run.of_published unused (mem_publications_iff.mpr published)
  cases found.symm.trans known.found
  refine (run.token_cancelled unused k c found).mpr ?_
  -- The token is cancelled before anything else of the closing is done.
  rcases Phase.of_publish_closed known.closed with phase | ⟨_, phase⟩ <;> simp [phase, Phase.closed]

end Controller

end Shutdown

end FrameHost
