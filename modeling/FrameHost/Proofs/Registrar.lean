import Mathlib.Data.List.Perm.Basic
import FrameHost.Registrar

/-! The gauge of a registrar.

The gauge shows what was published last. Calls that publish out of turn can leave an old count there: once
all of them have published, it is the number of frames exactly if the one that was admitted last was also
the last to publish. It is right without fail if no call comes in while another one still has to publish. -/

set_option autoImplicit false

namespace FrameHost.Registrar

def Happening.published? : Happening → Option Nat
  | .published n => some n
  | _ => none

/-- The gauge shows the number of frames, or the only call under way is going to publish that. -/
inductive Exact (s : Registrar) : Prop where
  | shown (quiet : s.unpublished = []) (gauge : ∀ n, s.gauge = some n ↔ n = s.registry.size ∧ 0 < n)
  | due (pending : s.unpublished = [s.registry.size]) (grown : 0 < s.registry.size)

section
variable {s s' : Registrar} {e : Event} {happenings : List Happening}

theorem gauge_step (stepped : s.step e = some (s', happenings)) :
    s'.gauge = (happenings.filterMap Happening.published?).getLast?.or s.gauge := by
  cases e with
  | attempt id =>
    cases tried : s.registry.tryRegister id <;>
    · simp only [step, tried, Option.some.injEq, Prod.mk.injEq] at stepped
      obtain ⟨rfl, rfl⟩ := stepped
      rfl
  | publish place =>
    obtain ⟨n, -, stepped⟩ := Option.bind_eq_some_iff.mp stepped
    cases stepped
    rfl

theorem Exact.step (exact : Exact s) (serial : ∀ id, e = .attempt id → s.unpublished = [])
    (stepped : s.step e = some (s', happenings)) : Exact s' := by
  cases e with
  | attempt id =>
    cases tried : s.registry.tryRegister id with
    | error refusal =>
      simp only [Registrar.step, tried, Option.some.injEq, Prod.mk.injEq] at stepped
      obtain ⟨rfl, -⟩ := stepped
      exact exact
    | ok registry =>
      simp only [Registrar.step, tried, Option.some.injEq, Prod.mk.injEq] at stepped
      obtain ⟨rfl, -⟩ := stepped
      obtain ⟨-, -, rfl⟩ := (Registry.tryRegister_eq_ok_iff _ _ _).mp tried
      refine .due ?_ (by simp [Registry.size])
      rw [serial id rfl]
      rfl
  | publish place =>
    obtain ⟨n, pending, stepped⟩ := Option.bind_eq_some_iff.mp stepped
    cases stepped
    cases exact with
    | shown quiet => simp [quiet] at pending
    | due due grown =>
      obtain ⟨bound, same⟩ := List.getElem?_eq_some_iff.mp pending
      have first : place = 0 := by
        rw [due, List.length_singleton] at bound
        omega
      subst first
      simp only [due, List.getElem_cons_zero] at same
      subst same
      refine .shown (by simp [due]) fun n => ?_
      simp only [Option.some.injEq]
      exact ⟨fun same => ⟨same.symm, same ▸ grown⟩, fun shown => shown.1.symm⟩

end

def Happening.admitted? : Happening → Option Nat
  | .admitted _ n => some n
  | _ => none

def admissions (trace : List Happening) : List Nat := trace.filterMap Happening.admitted?

def publications (trace : List Happening) : List Nat := trace.filterMap Happening.published?

inductive Run : List Happening → Registrar → Prop where
  | new : Run [] {}
  | step {trace happenings : List Happening} {s s' : Registrar} {e : Event} (run : Run trace s)
      (stepped : s.step e = some (s', happenings)) : Run (trace ++ happenings) s'

/-- Every admission has its own count. It is published later, once, and the gauge keeps the last one. -/
structure Counted (trace : List Happening) (s : Registrar) : Prop where
  admissions : admissions trace = List.range' 1 s.registry.size
  published : (publications trace ++ s.unpublished).Perm (List.range' 1 s.registry.size)
  gauge : s.gauge = (publications trace).getLast?

section
variable {trace happenings : List Happening} {s s' : Registrar} {e : Event}

theorem admissions_append : admissions (trace ++ happenings) = admissions trace ++ admissions happenings :=
  List.filterMap_append

theorem publications_append :
    publications (trace ++ happenings) = publications trace ++ publications happenings := List.filterMap_append

theorem Counted.attempt {id : FrameId} (counted : Counted trace s)
    (stepped : s.step (.attempt id) = some (s', happenings)) : Counted (trace ++ happenings) s' := by
  cases tried : s.registry.tryRegister id with
  | error refusal =>
    simp only [Registrar.step, tried, Option.some.injEq, Prod.mk.injEq] at stepped
    obtain ⟨rfl, rfl⟩ := stepped
    have unadmitted : Registrar.admissions (trace ++ [.refused refusal]) = Registrar.admissions trace := by
      rw [admissions_append]
      exact List.append_nil _
    have silent : publications (trace ++ [.refused refusal]) = publications trace := by
      rw [publications_append]
      exact List.append_nil _
    constructor
    · rw [unadmitted]
      exact counted.admissions
    · rw [silent]
      exact counted.published
    · rw [silent]
      exact counted.gauge
  | ok registry =>
    simp only [Registrar.step, tried, Option.some.injEq, Prod.mk.injEq] at stepped
    obtain ⟨rfl, rfl⟩ := stepped
    obtain ⟨-, -, rfl⟩ := (Registry.tryRegister_eq_ok_iff _ _ _).mp tried
    -- The new count is one more than the largest so far.
    have grown : List.range' 1 (s.registry.size + 1) = List.range' 1 s.registry.size ++ [s.registry.size + 1] := by
      rw [List.range'_concat, Nat.one_mul, Nat.add_comm 1]
    have size : (⟨s.registry.frames ++ [id]⟩ : Registry).size = s.registry.size + 1 := by simp [Registry.size]
    have silent : publications (trace ++ [.admitted id.key (s.registry.size + 1)]) = publications trace := by
      rw [publications_append]
      exact List.append_nil _
    simp only [size]
    constructor
    · simp only [size, grown, ← counted.admissions, admissions_append]
      rfl
    · simp only [size, grown, silent, ← List.append_assoc]
      exact counted.published.append_right _
    · rw [silent]
      exact counted.gauge

theorem Counted.publish {place : Nat} (counted : Counted trace s)
    (stepped : s.step (.publish place) = some (s', happenings)) : Counted (trace ++ happenings) s' := by
  obtain ⟨n, pending, stepped⟩ := Option.bind_eq_some_iff.mp stepped
  cases stepped
  have spoken : publications (trace ++ [.published n]) = publications trace ++ [n] := publications_append
  constructor
  · rw [admissions_append]
    exact (List.append_nil _).trans counted.admissions
  · -- The count moves from those that are pending to those that are published.
    obtain ⟨bound, here⟩ := List.getElem?_eq_some_iff.mp pending
    have moved : (n :: s.unpublished.eraseIdx place).Perm s.unpublished :=
      here ▸ List.getElem_cons_eraseIdx_perm bound
    rw [spoken, List.append_assoc, List.singleton_append]
    exact (moved.append_left _).trans counted.published
  · simp [spoken]

theorem Run.counted (run : Run trace s) : Counted trace s := by
  induction run with
  | new => exact ⟨rfl, .nil, rfl⟩
  | @step _ _ _ _ e _ stepped ih =>
    cases e with
    | attempt id => exact ih.attempt stepped
    | publish place => exact ih.publish stepped

/-- Once all calls have returned, each one that was admitted has published the count that it saw, and the
gauge shows the number of frames exactly if the last one to publish was the last one to be admitted. -/
theorem gauge_right_iff (run : Run trace s) (returned : s.unpublished = []) (accepted : admissions trace ≠ []) :
    admissions trace = List.range' 1 s.registry.size ∧ (publications trace).Perm (admissions trace) ∧
      s.gauge = (publications trace).getLast? ∧
      (s.gauge = some s.registry.size ↔ (publications trace).getLast? = (admissions trace).getLast?) := by
  have counted := run.counted
  have published := counted.published
  rw [returned, List.append_nil, ← counted.admissions] at published
  have last : (admissions trace).getLast? = some s.registry.size := by
    rw [counted.admissions] at accepted ⊢
    obtain ⟨n, size⟩ : ∃ n, s.registry.size = n + 1 :=
      Nat.exists_eq_succ_of_ne_zero fun none => accepted (by rw [none]; rfl)
    rw [size, List.range'_concat, List.getLast?_concat, Nat.one_mul, Nat.add_comm]
  refine ⟨counted.admissions, published, counted.gauge, ?_⟩
  rw [last, counted.gauge]

def run? (s : Registrar) : List Event → Option (List Happening × Registrar)
  | [] => some ([], s)
  | e :: rest => do
    let (s', happenings) ← s.step e
    let (more, last) ← run? s' rest
    some (happenings ++ more, last)

theorem Run.of_run? {more : List Happening} {last : Registrar} {events : List Event} (run : Run trace s)
    (ran : s.run? events = some (more, last)) : Run (trace ++ more) last := by
  induction events generalizing trace s more with
  | nil =>
    cases ran
    simpa using run
  | cons e rest ih =>
    obtain ⟨⟨s', happenings⟩, stepped, ran⟩ := Option.bind_eq_some_iff.mp ran
    obtain ⟨⟨tail, last⟩, ran, same⟩ := Option.bind_eq_some_iff.mp ran
    cases same
    rw [← List.append_assoc]
    exact ih (run.step stepped) ran

/-- Three calls that overlap, of which the first two publish in the wrong order. -/
def outOfTurn : List Event :=
  [.attempt (.ofName "a"), .attempt (.ofName "b"), .attempt (.ofName "a"), .attempt (.ofName "c"), .publish 1,
    .publish 0, .publish 0]

theorem gauge_right_iff_outOfTurn :
    ∃ trace s, ({} : Registrar).run? outOfTurn = some (trace, s) ∧ s.unpublished = [] ∧ admissions trace ≠ [] ∧
      publications trace = [2, 1, 3] ∧ s.registry.size = 3 ∧ s.gauge = some 3 := by
  obtain ⟨⟨trace, s⟩, ran⟩ : ∃ result, ({} : Registrar).run? outOfTurn = some result := ⟨_, rfl⟩
  have seen : ∀ result ∈ ({} : Registrar).run? outOfTurn, result.2.unpublished = [] ∧
      admissions result.1 = [1, 2, 3] ∧ publications result.1 = [2, 1, 3] ∧ result.2.registry.size = 3 := by
    decide
  obtain ⟨returned, admitted, published, size⟩ := seen _ ran
  have accepted : admissions trace ≠ [] := by simp [admitted]
  have run : Run trace s := Run.new.of_run? ran
  have right := (gauge_right_iff run returned accepted).2.2.2
  rw [published, admitted, size] at right
  exact ⟨trace, s, ran, returned, accepted, published, size, right.mpr rfl⟩

/-- The call that was admitted first publishes last, and the gauge stays behind the registry. -/
theorem stale_gauge :
    ∃ trace s, ({} : Registrar).run?
        [.attempt (.ofName "a"), .attempt (.ofName "b"), .publish 1, .publish 0] = some (trace, s) ∧
      s.unpublished = [] ∧ admissions trace = [1, 2] ∧ s.registry.size = 2 ∧ s.gauge = some 1 :=
  ⟨_, _, rfl, by decide, by decide, by decide, by decide⟩

end

end FrameHost.Registrar
