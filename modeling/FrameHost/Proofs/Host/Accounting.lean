import Mathlib.Data.List.Basic
import FrameHost.Proofs.Host.Starting
import FrameHost.Proofs.Metrics
import FrameHost.Proofs.Registrar
import FrameHost.Proofs.Shutdown.Chronicle
import FrameHost.Proofs.Shutdown.Counting

/-! The metrics of a host against what has happened to it.

Three kinds of happenings change the metrics. Their counts are those of the tasks that were spawned and of
the sequences that have come far enough; the gauge is right whenever no registration is under way. -/

set_option autoImplicit false

namespace FrameHost.Host

def Happening.gauge? : Happening → Option Nat
  | .registration h => h.published?
  | _ => none

def Happening.start? : Happening → Option String
  | .startup h => h.started?
  | _ => none

def Happening.verdict? : Happening → Option Bool
  | .shutdown _ h => h.verdict?
  | _ => none

theorem count_cases (h : Happening) :
    (∃ n, h = .registration (.published n)) ∨ (∃ p r i id, h = .startup (.dispatched p r i id)) ∨
    (∃ c k graceful, h = .shutdown c (.counted k graceful)) ∨
    h.gauge? = none ∧ h.start? = none ∧ h.verdict? = none ∧ ∀ m, count m h = m := by
  cases h with
  | registration r =>
    cases r with
    | published n => exact .inl ⟨n, rfl⟩
    | _ => exact .inr (.inr (.inr ⟨rfl, rfl, rfl, fun _ => rfl⟩))
  | startup s =>
    cases s with
    | dispatched p r i id => exact .inr (.inl ⟨p, r, i, id, rfl⟩)
    | _ => exact .inr (.inr (.inr ⟨rfl, rfl, rfl, fun _ => rfl⟩))
  | shutdown c s =>
    cases s with
    | counted k graceful => exact .inr (.inr (.inl ⟨c, k, graceful, rfl⟩))
    | _ => exact .inr (.inr (.inr ⟨rfl, rfl, rfl, fun _ => rfl⟩))
  | _ => exact .inr (.inr (.inr ⟨rfl, rfl, rfl, fun _ => rfl⟩))

section
variable (happenings : List Happening) (m : Metrics)

theorem registered_foldl_count : (happenings.foldl count m).registered =
    (happenings.filterMap Happening.gauge?).getLast?.or m.registered := by
  induction happenings generalizing m with
  | nil => rfl
  | cons h rest ih =>
    rw [List.foldl_cons, ih]
    rcases count_cases h with ⟨n, rfl⟩ | ⟨p, r, i, id, rfl⟩ | ⟨c, k, graceful, rfl⟩ | ⟨none, -, -, same⟩
    · rw [List.filterMap_cons_some (f := Happening.gauge?) rfl, List.getLast?_cons]
      cases (rest.filterMap Happening.gauge?).getLast? <;> rfl
    · rfl
    · cases graceful <;> rfl
    · rw [List.filterMap_cons_none none, same]

theorem starts_foldl_count : (happenings.foldl count m).starts =
    (happenings.filterMap Happening.start?).foldl (fun starts key => Metrics.increment key starts) m.starts := by
  induction happenings generalizing m with
  | nil => rfl
  | cons h rest ih =>
    rw [List.foldl_cons, ih]
    rcases count_cases h with ⟨n, rfl⟩ | ⟨p, r, i, id, rfl⟩ | ⟨c, k, graceful, rfl⟩ | ⟨-, none, -, same⟩
    · rfl
    · rfl
    · cases graceful <;> rfl
    · rw [List.filterMap_cons_none none, same]

theorem shutdowns_foldl_count (verdict : Bool) : (happenings.foldl count m).shutdowns verdict =
    m.shutdowns verdict + (happenings.filterMap Happening.verdict?).count verdict := by
  induction happenings generalizing m with
  | nil => rfl
  | cons h rest ih =>
    rw [List.foldl_cons, ih]
    rcases count_cases h with ⟨n, rfl⟩ | ⟨p, r, i, id, rfl⟩ | ⟨c, k, graceful, rfl⟩ | ⟨-, -, none, same⟩
    · rfl
    · rfl
    · have one : (count m (.shutdown c (.counted k graceful))).shutdowns verdict =
          m.shutdowns verdict + [graceful].count verdict := by
        cases graceful <;> cases verdict <;> rfl
      have split : ((Happening.shutdown c (.counted k graceful)) :: rest).filterMap Happening.verdict? =
          [graceful] ++ rest.filterMap Happening.verdict? := rfl
      rw [one, split, List.count_append, Nat.add_assoc]
    · rw [List.filterMap_cons_none none, same]

end

theorem countP_flatMap_set {α β : Type} {p : β → Bool} {f : α → List β} {l : List α} {i : Nat} {a b : α}
    (found : l[i]? = some a) : ((l.set i b).flatMap f).countP p + (f a).countP p =
      (l.flatMap f).countP p + (f b).countP p := by
  induction l generalizing i with
  | nil => cases found
  | cons x rest ih =>
    cases i with
    | zero =>
      cases found
      simp only [List.set_cons_zero, List.flatMap_cons, List.countP_append]
      omega
    | succ i =>
      have rest := ih found
      simp only [List.set_cons_succ, List.flatMap_cons, List.countP_append]
      omega

def calls (h : Host) : List Shutdown.Call := h.controllers.flatMap (·.calls)

def keyAt? (h : Host) (i : Nat) : Option String := (h.registry.frames[i]?).map FrameId.key

def Event.attempts : Event → Bool
  | .registration (.attempt _) => true
  | _ => false

/-- No registration is attempted while another one is under way. -/
def Serial (past : List Moment) : Prop :=
  ∀ m ∈ past, m.event.attempts = true → m.before.registrar.unpublished = []

instance (past : List Moment) : Decidable (Serial past) := inferInstanceAs (Decidable (∀ m ∈ past, _))

/-- The counted starts are those of registered frames. -/
structure StartsCounted (h : Host) : Prop where
  registered : ∀ i ∈ h.starts.frames, i < h.registry.size
  tallies : Metrics.Tallies h.metrics.starts (h.starts.frames.filterMap h.keyAt?)

section
variable {h h' : Host} {e : Event} {happenings : List Happening} {past : List Moment} {clock : Clock}
  {startInterval shutdownTimeout : Duration}

theorem step_cases (stepped : h.step e = some (h', happenings)) :
    ∃ parts, Parts h e parts happenings ∧ h' = { parts with metrics := happenings.foldl count h.metrics } := by
  obtain ⟨⟨parts, happenings⟩, moved, stepped⟩ := Option.bind_eq_some_iff.mp stepped
  cases stepped
  have parted := Parts.of_stepParts moved
  have same : parts.metrics = h.metrics := by cases parted <;> rfl
  exact ⟨parts, parted, by rw [same]⟩

theorem Parts.registrar_cases (parts : Parts h e h' happenings) :
    (∃ asked registered, e = .registration asked ∧ h.registrar.step asked = some (h'.registrar, registered) ∧
      happenings = registered.map .registration) ∨
    h'.registrar = h.registrar ∧ happenings.filterMap Happening.gauge? = [] := by
  cases parts with
  | registration moved => exact .inl ⟨_, _, rfl, moved, rfl⟩
  | startup => exact .inr ⟨rfl, filterMap_foreign (fun _ => rfl) _⟩
  | arm => exact .inr ⟨rfl, filterMap_foreign (fun _ => rfl) _⟩
  | called => exact .inr ⟨rfl, (List.filterMap_cons_none rfl).trans (filterMap_foreign (fun _ => rfl) _)⟩
  | shutdown => exact .inr ⟨rfl, filterMap_foreign (fun _ => rfl) _⟩
  | _ => exact .inr ⟨rfl, rfl⟩

theorem Parts.calls_cases (parts : Parts h e h' happenings) :
    (∃ c s asked s' worked, h.controllers[c]? = some s ∧
      Shutdown.Controller.Step h.registry h.clock s asked s' worked ∧
      h'.controllers = h.controllers.set c s' ∧
      happenings.filterMap Happening.verdict? = worked.filterMap Shutdown.Happening.verdict?) ∨
    h'.calls = h.calls ∧ happenings.filterMap Happening.verdict? = [] := by
  have own (c : Nat) (worked : List Shutdown.Happening) :
      (worked.map (Happening.shutdown c)).filterMap Happening.verdict? =
        worked.filterMap Shutdown.Happening.verdict? := List.filterMap_map
  cases parts with
  | @called c s s' more armed found asked =>
    exact .inl ⟨c, s, _, s', more, found, .of_step asked, rfl,
      (List.filterMap_cons_none rfl).trans (own c more)⟩
  | @shutdown c e s s' more found moved =>
    exact .inl ⟨c, s, e, s', more, found, .of_step moved, rfl, own c more⟩
  | addController => exact .inr ⟨by simp [calls], rfl⟩
  | registration => exact .inr ⟨rfl, filterMap_foreign (fun _ => rfl) _⟩
  | startup => exact .inr ⟨rfl, filterMap_foreign (fun _ => rfl) _⟩
  | arm => exact .inr ⟨rfl, filterMap_foreign (fun _ => rfl) _⟩
  | _ => exact .inr ⟨rfl, rfl⟩

theorem Parts.keyAt? (parts : Parts h e h' happenings) {i : Nat} (registered : i < h.registry.size) :
    i < h'.registry.size ∧ h'.keyAt? i = h.keyAt? i := by
  obtain ⟨more, grown⟩ := parts.grown.frames
  refine ⟨?_, ?_⟩
  · rw [Registry.size, ← grown, List.length_append]
    exact Nat.lt_add_right _ registered
  · rw [Host.keyAt?, ← grown, List.getElem?_append_left registered]
    rfl

theorem StartsCounted.step (counted : StartsCounted h) (parts : Parts h e h' happenings) :
    StartsCounted { h' with metrics := happenings.foldl count h.metrics } := by
  -- Registrations between the starts leave the keys of the started frames as they were.
  have kept : h.starts.frames.filterMap h'.keyAt? = h.starts.frames.filterMap h.keyAt? :=
    List.filterMap_congr fun i member => (parts.keyAt? (counted.registered i member)).2
  have told : happenings.filterMap Happening.start? =
      (happenings.filterMap Happening.startup?).filterMap Startup.Happening.started? := by
    rw [List.filterMap_filterMap]
    refine List.filterMap_congr fun x _ => ?_
    cases x <;> rfl
  have tallies := counted.tallies.foldl (happenings.filterMap Happening.start?)
  rw [← starts_foldl_count] at tallies
  have silent (frames : h'.starts.frames = h.starts.frames)
      (none : (happenings.filterMap Happening.startup?).filterMap Startup.Happening.started? = []) :
      StartsCounted { h' with metrics := happenings.foldl count h.metrics } := by
    refine ⟨fun i member => ?_, ?_⟩
    · exact (parts.keyAt? (counted.registered i (frames ▸ member))).1
    · rw [told, none, List.append_nil, ← kept, ← frames] at tallies
      exact tallies
  rcases parts.starts_cases with ⟨asked, -, step⟩ | ⟨-, same, none⟩
  · rcases step.started with ⟨frames, none⟩ | ⟨i, id, registered, frames, started⟩
    · exact silent frames none
    · have bound : i < h.registry.size := (List.getElem?_eq_some_iff.mp registered).1
      refine ⟨fun j member => ?_, ?_⟩
      · rcases List.mem_append.mp (frames ▸ member) with earlier | last
        · exact (parts.keyAt? (counted.registered j earlier)).1
        · exact List.mem_singleton.mp last ▸ (parts.keyAt? bound).1
      · have key : h'.keyAt? i = some id.key := by rw [(parts.keyAt? bound).2, keyAt?, registered]; rfl
        have keys : h'.starts.frames.filterMap h'.keyAt? = h.starts.frames.filterMap h.keyAt? ++ [id.key] := by
          rw [frames, List.filterMap_append, kept, List.filterMap_cons_some key, List.filterMap_nil]
        rw [told, started, ← keys] at tallies
        exact tallies
  · exact silent (congrArg Startup.Starts.frames same) (by rw [none]; rfl)

theorem Run.startsCounted (run : Run (newAt clock startInterval shutdownTimeout) past h) : StartsCounted h := by
  induction run with
  | start => exact ⟨nofun, .nil⟩
  | @step past h h' e happenings run stepped ih =>
    obtain ⟨parts, moved, rfl⟩ := step_cases stepped
    exact ih.step moved

theorem Run.registered (run : Run (newAt clock startInterval shutdownTimeout) past h) :
    h.metrics.registered = h.registrar.gauge := by
  induction run with
  | start => rfl
  | @step past h h' e happenings run stepped ih =>
    obtain ⟨parts, moved, rfl⟩ := step_cases stepped
    rw [registered_foldl_count, ih]
    rcases moved.registrar_cases with ⟨asked, registered, rfl, step, rfl⟩ | ⟨same, none⟩
    · have own : (registered.map Happening.registration).filterMap Happening.gauge? =
          registered.filterMap Registrar.Happening.published? := List.filterMap_map
      rw [own]
      exact (Registrar.gauge_step step).symm
    · rw [none, same]
      rfl

theorem Run.exact (run : Run (newAt clock startInterval shutdownTimeout) past h) (serial : Serial past) :
    h.registrar.Exact := by
  induction run with
  | start =>
    refine .shown rfl fun n => ⟨nofun, fun ⟨unfilled, above⟩ => ?_⟩
    rw [unfilled] at above
    exact absurd above (Nat.lt_irrefl 0)
  | @step past h h' e happenings run stepped ih =>
    obtain ⟨parts, moved, rfl⟩ := step_cases stepped
    have before := ih fun m member => serial m (List.mem_append_left _ member)
    have last := serial ⟨h, e, happenings⟩ (by simp)
    rcases moved.registrar_cases with ⟨asked, registered, rfl, step, -⟩ | ⟨same, -⟩
    · refine before.step (fun id attempt => last ?_) step
      rw [attempt]
      rfl
    · exact same ▸ before

theorem Run.shutdowns (run : Run (newAt clock startInterval shutdownTimeout) past h) (verdict : Bool) :
    h.metrics.shutdowns verdict = h.calls.countP (Shutdown.Call.counted verdict) := by
  induction run with
  | start => cases verdict <;> rfl
  | @step past h h' e happenings run stepped ih =>
    obtain ⟨parts, moved, rfl⟩ := step_cases stepped
    rw [shutdowns_foldl_count, ih]
    rcases moved.calls_cases with ⟨c, s, asked, s', worked, found, step, changed, verdicts⟩ | ⟨same, none⟩
    · -- The calls of one controller are counted anew, among those of all others.
      obtain ⟨defaultTimeout, run'⟩ := run.controller found
      have here := step.counts (run'.passed rfl) verdict
      have all := countP_flatMap_set (p := Shutdown.Call.counted verdict) (f := (·.calls)) (b := s') found
      rw [verdicts]
      simp only [calls, changed]
      omega
    · rw [none, List.count_nil, Nat.add_zero, ← same]
      rfl

/-- In every run the metrics are what has happened. The gauge is the number of frames whenever no
registration is under way, if registrations do not overlap; the starts of a key are the tasks that were
spawned for its frame; the shutdowns of a verdict are the sequences that are past its count. And each
sequence that has ended leaves the records of its chronicle, and no others. -/
theorem host_accounts (run : Run (newAt clock startInterval shutdownTimeout) past h) :
    (Serial past → h.registrar.unpublished = [] → ∀ n,
      ("frame_host_frames_registered", n) ∈ h.metrics.entries ↔ n = h.registry.size ∧ 0 < n) ∧
    (∀ key n, (Metrics.startName key, n) ∈ h.metrics.entries ↔
      n = h.starts.runs.countP (fun run => h.keyAt? run.frame == some key) ∧ 0 < n) ∧
    (∀ verdict n, (Metrics.shutdownName verdict, n) ∈ h.metrics.entries ↔
      n = h.calls.countP (Shutdown.Call.counted verdict) ∧ 0 < n) ∧
    ∀ c, Shutdown.trace (moments c past) = (past.flatMap Moment.happenings).filterMap (·.of? c) ∧
      ∀ s k call report, h.controllers[c]? = some s → s.call? k = some call → call.phase = .ended report →
        ∃ timeout stops failed finalizer,
          Shutdown.Chronicle (moments c past) k report timeout stops failed finalizer := by
  refine ⟨fun serial quiet n => ?_, fun key n => ?_, fun verdict n => ?_,
    fun c => ⟨run.trace_moments c, fun s k call report found called ended => ?_⟩⟩
  · rw [Metrics.registered_iff, run.registered]
    cases run.exact serial with
    | shown _ gauge => exact gauge n
    | due pending => cases quiet.symm.trans pending
  · rw [Metrics.started_iff, run.startsCounted.tallies.counts, List.count_filterMap, Startup.Starts.frames,
      List.countP_map]
    rfl
  · rw [Metrics.shutdowns_iff, run.shutdowns]
  · obtain ⟨defaultTimeout, run'⟩ := run.controller found
    exact run'.chronicle rfl called ended

/-- Two frames that are started and shut down twice. The first time one frame panics, the other one is not
graceful, and the finalizer fails; the second time everything goes well and has just been counted. -/
def shutDownTwice : List Event :=
  [.registration (.attempt (.ofName "a")), .registration (.publish 0), .registration (.attempt (.ofName "")),
    .registration (.attempt (.ofName "b")), .registration (.publish 0), .startup .call, .startup (.turn 0),
    .startup (.beginRun 0), .advance 50, .startup (.turn 0), .shutdown 0 (.setFinalizer 7),
    .shutdown 0 (.request (some ⟨500⟩)), .shutdown 0 (.acquire 0), .shutdown 0 (.invoke 0 1),
    .shutdown 0 (.invoke 0 0), .shutdown 0 (.finish 0 1 false), .shutdown 0 (.panic 0 0 "broken"),
    .shutdown 0 (.passBarrier 0), .shutdown 0 (.endFinalizer 0 (.failed "stuck")), .shutdown 0 (.close 0),
    .shutdown 0 (.close 0), .shutdown 0 (.close 0), .shutdown 0 (.close 0), .shutdown 0 (.close 0),
    .shutdown 0 (.close 0), .shutdown 0 (.request none), .shutdown 0 (.acquire 1), .shutdown 0 (.invoke 1 0),
    .shutdown 0 (.invoke 1 1), .shutdown 0 (.finish 1 0 true), .shutdown 0 (.finish 1 1 true),
    .shutdown 0 (.passBarrier 1), .shutdown 0 (.endFinalizer 1 .ok), .shutdown 0 (.close 1),
    .shutdown 0 (.close 1)]

theorem host_accounts_shutDownTwice :
    ∃ past h s call, (newAt .fresh ⟨50⟩ ⟨60000⟩).run? shutDownTwice = some (past, h) ∧ Serial past ∧
      h.registrar.unpublished = [] ∧ ("frame_host_frames_registered", 2) ∈ h.metrics.entries ∧
      (Metrics.startName "a", 1) ∈ h.metrics.entries ∧ (Metrics.shutdownName true, 1) ∈ h.metrics.entries ∧
      (Metrics.shutdownName false, 1) ∈ h.metrics.entries ∧ h.controllers[0]? = some s ∧
      s.call? 0 = some call ∧ call.phase = .ended { graceful := false, frames := 2, deadline := 550 } ∧
      ∃ timeout stops failed finalizer, Shutdown.Chronicle (moments 0 past) 0
        { graceful := false, frames := 2, deadline := 550 } timeout stops failed finalizer := by
  obtain ⟨⟨past, h⟩, ran⟩ : ∃ result, (newAt .fresh ⟨50⟩ ⟨60000⟩).run? shutDownTwice = some result := ⟨_, rfl⟩
  have serial : ∀ result ∈ (newAt .fresh ⟨50⟩ ⟨60000⟩).run? shutDownTwice, Serial result.1 := by decide
  have seen : ((newAt .fresh ⟨50⟩ ⟨60000⟩).run? shutDownTwice).map (fun result =>
      (result.2.registrar.unpublished, result.2.registry.size,
        result.2.starts.runs.countP (fun run => result.2.keyAt? run.frame == some "a"),
        result.2.calls.countP (Shutdown.Call.counted true),
        result.2.calls.countP (Shutdown.Call.counted false))) = some ([], 2, 1, 1, 1) := by
    decide
  have phase : ((newAt .fresh ⟨50⟩ ⟨60000⟩).run? shutDownTwice).bind (fun result =>
      (result.2.controllers[0]?.bind (·.call? 0)).map (·.phase)) =
        some (.ended { graceful := false, frames := 2, deadline := 550 }) := by
    decide
  replace serial := serial _ ran
  rw [ran] at seen phase
  simp only [Option.map_some, Option.some.injEq, Prod.mk.injEq] at seen
  obtain ⟨quiet, size, started, graceful, abrupt⟩ := seen
  obtain ⟨call, found, ended⟩ := Option.map_eq_some_iff.mp phase
  obtain ⟨s, controller, called⟩ := Option.bind_eq_some_iff.mp found
  obtain ⟨gauge, starts, verdicts, chronicles⟩ := host_accounts (Run.of_start ran)
  exact ⟨past, h, s, call, ran, serial, quiet, (gauge serial quiet 2).mpr ⟨size.symm, by decide⟩,
    (starts "a" 1).mpr ⟨started.symm, by decide⟩, (verdicts true 1).mpr ⟨graceful.symm, by decide⟩,
    (verdicts false 1).mpr ⟨abrupt.symm, by decide⟩, controller, called, ended,
    (chronicles 0).2 s 0 call _ controller called ended⟩

end

end FrameHost.Host
