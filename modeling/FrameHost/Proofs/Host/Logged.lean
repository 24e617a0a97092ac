import FrameHost.Host.Logged
import FrameHost.Proofs.Host.Run
import FrameHost.Proofs.Log.Journal
import FrameHost.Proofs.Shutdown.Summaries

/-! What the log of a host keeps of its shutdowns.

Every sequence says its summary and then closes the log, and nobody opens the log again. So the file
keeps the summary of the first sequence that completes and nothing of what is said afterwards. -/

set_option autoImplicit false

namespace FrameHost

open Log (Filter Journal Record Style)
open Log.Journal (Entry written lines)
open Shutdown (Mark Report Summary summaryOf?)

namespace Host

def Happening.mark? : Happening → Option Mark
  | .shutdown _ h => h.mark?
  | _ => none

theorem Happening.mark?_eq {h : Happening} (unclosed : ∀ c k, h ≠ .shutdown c (.logClosed k)) :
    h.mark? = (h.record?.bind summaryOf?).map .summary := by
  cases h with
  | shutdown c h => exact Shutdown.Happening.mark?_eq fun k same => unclosed c k (congrArg _ same)
  | registration h => cases h <;> rfl
  | startup h => cases h <;> rfl
  | trap h => cases h <;> rfl
  | reported => rfl

theorem Happening.record?_of_mark? {h : Happening} {s : Summary} (marked : h.mark? = some (.summary s)) :
    h.record? = some (Shutdown.summary s.graceful s.frames) := by
  cases h with
  | shutdown c h => exact Shutdown.Happening.record?_of_mark? marked
  | _ => cases marked

theorem Run.marks_moments {start h : Host} {past : List Moment} (run : Run start past h)
    (alone : h.controllers.length = 1) :
    (past.flatMap Moment.happenings).filterMap Happening.mark? = Shutdown.marks (moments 0 past) := by
  unfold Shutdown.marks
  rw [run.trace_moments, List.filterMap_filterMap]
  refine List.filterMap_congr fun x member => ?_
  cases x with
  | shutdown c x =>
    -- There are no other controllers that could have left something.
    have own : c = 0 := by
      refine Nat.eq_zero_of_not_pos fun other => ?_
      have nothing := run.trace_moments c
      rw [run.moments_eq_nil (by omega)] at nothing
      exact List.not_mem_nil (nothing ▸ mem_of?_iff.mpr member)
    subst own
    rfl
  | _ => rfl

end Host

namespace Logged

def told? (time : String) : Host.Happening → Option Entry
  | .shutdown _ (.logClosed _) => some .closed
  | h => h.record?.map (.said time)

theorem told?_eq {h : Host.Happening} (time : String) (other : ∀ c k, h ≠ .shutdown c (.logClosed k)) :
    told? time h = h.record?.map (.said time) := by
  unfold told?
  split
  · exact (other _ _ rfl).elim
  · rfl

theorem follow_eq (journal : Journal) (time : String) (h : Host.Happening) :
    follow journal time h = (told? time h).elim journal journal.enter := by
  unfold follow
  split
  · rfl
  · rename_i other
    rw [told?_eq time other]
    cases h.record? <;> rfl

theorem foldl_follow (journal : Journal) (time : String) (happenings : List Host.Happening) :
    happenings.foldl (fun j h => follow j time h) journal =
      (happenings.filterMap (told? time)).foldl Journal.enter journal := by
  induction happenings generalizing journal with
  | nil => rfl
  | cons h rest ih =>
    rw [List.foldl_cons, ih, follow_eq]
    cases entered : told? time h with
    | none => rw [List.filterMap_cons_none entered, Option.elim_none]
    | some entry => rw [List.filterMap_cons_some entered, Option.elim_some, List.foldl_cons]

/-- An event of the host, or something that another holder of the log says. -/
inductive Moment where
  | event (time : String) (m : Host.Moment)
  | said (time : String) (r : Record)

/-- The runs of a host and its log. Only the host's controllers say summaries. -/
inductive Run (start : Logged) : List Moment → Logged → Prop where
  | start : Run start [] start
  | step {past : List Moment} {s s' : Logged} {time : String} {e : Host.Event}
      {happenings : List Host.Happening} (run : Run start past s)
      (stepped : s.step time e = some (s', happenings)) :
      Run start (past ++ [.event time ⟨s.host, e, happenings⟩]) s'
  | say {past : List Moment} {s : Logged} {time : String} {r : Record} (run : Run start past s)
      (foreign : summaryOf? r = none) :
      Run start (past ++ [.said time r]) { s with journal := s.journal.say time r }

def Moment.host? : Moment → Option Host.Moment
  | .event _ m => some m
  | .said .. => none

def hosted (past : List Moment) : List Host.Moment := past.filterMap Moment.host?

def Moment.entries : Moment → List Entry
  | .event time m => m.happenings.filterMap (told? time)
  | .said time r => [.said time r]

def entries (past : List Moment) : List Entry := past.flatMap Moment.entries

def mark? : Entry → Option Mark
  | .said _ r => (summaryOf? r).map .summary
  | .closed => some .closed

/-- The summaries before the log is closed for the first time. -/
def kept : List Mark → List Summary
  | [] => []
  | .summary s :: rest => s :: kept rest
  | .closed :: _ => []

def summaries (records : List (String × Record)) : List Summary := records.filterMap fun w => summaryOf? w.2

section
variable {start s s' : Logged} {past : List Moment} {time : String} {e : Host.Event}
  {happenings : List Host.Happening} {m : Moment}

theorem hosted_concat : hosted (past ++ [m]) = hosted past ++ m.host?.toList := by
  cases m <;> simp [hosted, Moment.host?]

theorem entries_concat : entries (past ++ [m]) = entries past ++ m.entries := by
  simp [entries]

theorem step_eq (stepped : s.step time e = some (s', happenings)) :
    s.host.step e = some (s'.host, happenings) ∧
      s'.journal = (happenings.filterMap (told? time)).foldl Journal.enter s.journal := by
  obtain ⟨⟨host, happenings⟩, moved, stepped⟩ := Option.bind_eq_some_iff.mp stepped
  cases stepped
  exact ⟨moved, foldl_follow ..⟩

theorem Run.onHost (run : Run start past s) : Host.Run start.host (hosted past) s.host := by
  induction run with
  | start => exact .start
  | step run stepped ih =>
    rw [hosted_concat]
    exact ih.step (step_eq stepped).1
  | say run foreign ih =>
    rw [hosted_concat]
    simpa [Moment.host?] using ih

theorem Run.journal (run : Run start past s) :
    s.journal = (entries past).foldl Journal.enter start.journal := by
  induction run with
  | start => rfl
  | step run stepped ih =>
    rw [entries_concat, List.foldl_append, ← ih]
    exact (step_eq stepped).2
  | say run foreign ih =>
    rw [entries_concat, List.foldl_append, ← ih]
    rfl

theorem bind_told? (time : String) (h : Host.Happening) : (told? time h).bind mark? = h.mark? := by
  by_cases closes : ∃ c k, h = .shutdown c (.logClosed k)
  · obtain ⟨c, k, rfl⟩ := closes
    rfl
  · have unclosed : ∀ c k, h ≠ .shutdown c (.logClosed k) := fun c k same => closes ⟨c, k, same⟩
    rw [told?_eq time unclosed, Host.Happening.mark?_eq unclosed]
    cases h.record? <;> rfl

/-- The marks in a log are those that the happenings of its host have left there. -/
theorem Run.marks (run : Run start past s) : (entries past).filterMap mark? =
    ((hosted past).flatMap Host.Moment.happenings).filterMap Host.Happening.mark? := by
  induction run with
  | start => rfl
  | step run stepped ih =>
    rw [entries_concat, hosted_concat, List.filterMap_append, ih, List.flatMap_append, List.filterMap_append]
    simp [Moment.entries, Moment.host?, List.filterMap_filterMap, bind_told?]
  | say run foreign ih =>
    rw [entries_concat, hosted_concat, List.filterMap_append, ih]
    simp [Moment.entries, Moment.host?, mark?, foreign]

theorem Run.said_summary (run : Run start past s) {r : Record} {summary : Summary}
    (member : .said time r ∈ entries past) (summed : summaryOf? r = some summary) :
    r = Shutdown.summary summary.graceful summary.frames := by
  induction run with
  | start => cases member
  | step run stepped ih =>
    rw [entries_concat] at member
    rcases List.mem_append.mp member with before | now
    · exact ih before
    · -- Among what the host says, only a sequence's own summary reads as one.
      obtain ⟨h, -, left⟩ := List.mem_filterMap.mp now
      have unclosed : ∀ c k, h ≠ .shutdown c (.logClosed k) := by
        rintro c k rfl
        cases left
      rw [told?_eq _ unclosed] at left
      obtain ⟨r, said, same⟩ := Option.map_eq_some_iff.mp left
      cases same
      have marked : h.mark? = some (.summary summary) := by
        rw [Host.Happening.mark?_eq unclosed, said, Option.bind_some, summed]
        rfl
      exact Option.some.inj (said.symm.trans (Host.Happening.record?_of_mark? marked))
  | say run foreign ih =>
    rw [entries_concat] at member
    rcases List.mem_append.mp member with before | now
    · exact ih before
    · cases List.mem_singleton.mp now
      cases foreign.symm.trans summed

end

theorem summaries_written {filter : Filter} {entries : List Entry}
    (admitted : ∀ time r s, .said time r ∈ entries → summaryOf? r = some s → filter.admits r = true) :
    summaries (written filter entries) = kept (entries.filterMap mark?) := by
  induction entries with
  | nil => rfl
  | cons entry rest ih =>
    have later := ih fun time r s member => admitted time r s (List.mem_cons_of_mem _ member)
    cases entry with
    | closed => rfl
    | said time r =>
      cases summed : summaryOf? r with
      | none =>
        -- Whether it is let through or not, a record that is no summary makes no difference.
        have plain : mark? (.said time r) = none := by simp [mark?, summed]
        rw [List.filterMap_cons_none plain, ← later, written]
        split
        · exact List.filterMap_cons_none summed
        · rfl
      | some s =>
        have let_in := admitted time r s (List.mem_cons_self ..) summed
        have marked : mark? (.said time r) = some (.summary s) := by simp [mark?, summed]
        rw [List.filterMap_cons_some marked, kept, ← later, written, if_pos let_in]
        exact List.filterMap_cons_some summed

/-- All that a host says of level info is let through. -/
def EnablesInfo (f : Filter) : Prop :=
  ∀ (h : Host.Happening) r, h.record? = some r → r.level = .info → f.admits r = true

theorem EnablesInfo.summary {f : Filter} (enabled : EnablesInfo f) (graceful : Bool) (frames : Nat) :
    f.admits (Shutdown.summary graceful frames) = true := by
  have admitted : f.admits (Shutdown.summary true frames) = true :=
    enabled (.shutdown 0 (.summarized 0 frames true)) _ rfl rfl
  cases graceful with
  | true => exact admitted
  | false =>
    have graver : Log.Level.warn.rank ≤ Log.Level.info.rank := by decide
    exact Filter.admits_graver (r := Shutdown.summary true frames) rfl rfl graver admitted

/-- The sequences of a host that have completed, in this order, with their reports. -/
def completed (past : List Moment) : List (Nat × Report) :=
  Shutdown.publications (Host.moments 0 (hosted past))

section
variable {clock : Clock} {startInterval shutdownTimeout : Duration} {filter : Filter} {style : Style}
  {content : Bytes} {location : Option Files.Location} {past : List Moment} {s : Logged}
  {controller : Shutdown.Controller}

/-- Whatever else happens to a host, its log file ends up with the summary of the first sequence that has
completed, if any has, and with no other. -/
theorem only_first_summary_kept
    (run : Run
      { host := Host.newAt clock startInterval shutdownTimeout
        journal := { filter, style, sink := .opened content, location } } past s)
    (enabled : EnablesInfo filter) (own : s.host.controllers = [controller])
    (idle : controller.holder = none) :
    (∀ k report, (k, report) ∈ completed past ↔
      ∃ c, controller.call? k = some c ∧ c.phase = .ended report) ∧
    s.journal.sink.final = content ++ lines style (written filter (entries past)) ∧
    summaries (written filter (entries past)) = ((completed past).take 1).map fun p => p.2.summary := by
  have first : s.host.controllers[0]? = some controller := by simp [own]
  obtain ⟨defaultTimeout, controlled⟩ := run.onHost.controller first
  refine ⟨fun k report => controlled.published_iff rfl fun j c found releasing => ?_, ?_, ?_⟩
  · have holds := (controlled.queued.holder j).mpr (by
      rw [Shutdown.Controller.standing?_eq found, releasing]
      rfl)
    cases idle.symm.trans holds
  · have opened : ({ filter, style, sink := .opened content, location } : Journal).sink = .file content [] := rfl
    rw [run.journal, Journal.final_enter (entries past) opened, List.append_nil]
  · have admitted : ∀ time r summary, .said time r ∈ entries past → summaryOf? r = some summary →
        filter.admits r = true := by
      intro time r summary member summed
      rw [run.said_summary member summed]
      exact enabled.summary summary.graceful summary.frames
    have marked : (entries past).filterMap mark? = (completed past).flatMap fun p => p.2.marks := by
      rw [run.marks, run.onHost.marks_moments (by simp [own]), controlled.marks_eq,
        Shutdown.Controller.unpublished_free idle, List.append_nil]
      rfl
    rw [summaries_written admitted, marked]
    -- The marks of the first report end with the log being closed.
    cases completed past with
    | nil => rfl
    | cons p rest => rfl

end

/-- The moments and the end of the run of a list of events with their times, if all of them can happen. -/
def run? (s : Logged) : List (String × Host.Event) → Option (List Moment × Logged)
  | [] => some ([], s)
  | (time, e) :: rest => do
    let (s', happenings) ← s.step time e
    let (past, last) ← run? s' rest
    some (.event time ⟨s.host, e, happenings⟩ :: past, last)

theorem Run.of_run? {start s last : Logged} {past more : List Moment} {events : List (String × Host.Event)}
    (run : Run start past s) (ran : s.run? events = some (more, last)) : Run start (past ++ more) last := by
  induction events generalizing s past more with
  | nil =>
    cases ran
    simpa using run
  | cons e rest ih =>
    obtain ⟨⟨s', happenings⟩, stepped, ran⟩ := Option.bind_eq_some_iff.mp ran
    obtain ⟨⟨tail, last⟩, ran, same⟩ := Option.bind_eq_some_iff.mp ran
    cases same
    simpa using ih (run.step stepped) ran

/-- A new host with a log file in which everything up to level info is let through. -/
def logging : Logged :=
  { host := Host.newAt .fresh ⟨50⟩ ⟨60000⟩
    journal := { filter := ⟨[{ limit := .upTo .info }]⟩, style := .plain, sink := .opened [] } }

/-- A shutdown of one frame, and another one, of two frames, in which the second frame fails. -/
def twoSummaries : List (String × Host.Event) :=
  [("0", .registration (.attempt (.ofName "a"))), ("0", .shutdown 0 (.request none)),
    ("0", .shutdown 0 (.acquire 0)), ("0", .shutdown 0 (.invoke 0 0)), ("1", .shutdown 0 (.finish 0 0 true)),
    ("1", .shutdown 0 (.passBarrier 0)), ("1", .shutdown 0 (.close 0)), ("1", .shutdown 0 (.close 0)),
    ("1", .shutdown 0 (.close 0)), ("1", .shutdown 0 (.close 0)), ("1", .shutdown 0 (.close 0)),
    ("1", .shutdown 0 (.close 0)), ("2", .registration (.attempt (.ofName "b"))),
    ("3", .shutdown 0 (.request none)), ("3", .shutdown 0 (.acquire 1)), ("3", .shutdown 0 (.invoke 1 0)),
    ("3", .shutdown 0 (.invoke 1 1)), ("4", .shutdown 0 (.finish 1 1 false)),
    ("4", .shutdown 0 (.finish 1 0 true)), ("4", .shutdown 0 (.passBarrier 1)), ("4", .shutdown 0 (.close 1)),
    ("4", .shutdown 0 (.close 1)), ("4", .shutdown 0 (.close 1)), ("4", .shutdown 0 (.close 1)),
    ("4", .shutdown 0 (.close 1)), ("4", .shutdown 0 (.close 1))]

theorem enablesInfo_logging : EnablesInfo logging.journal.filter := by
  intro h r said level
  simp [logging, Filter.admits, Filter.concerns, Log.Limit.admits, level]

theorem only_first_summary_kept_twoSummaries :
    ∃ past s, logging.run? twoSummaries = some (past, s) ∧
      (completed past).map (fun p => p.2.summary) = [⟨1, true⟩, ⟨2, false⟩] ∧
      s.journal.sink.final = lines .plain (written logging.journal.filter (entries past)) ∧
      summaries (written logging.journal.filter (entries past)) = [⟨1, true⟩] := by
  obtain ⟨⟨past, s⟩, ran⟩ : ∃ result, logging.run? twoSummaries = some result := ⟨_, rfl⟩
  have seen : ∀ result ∈ logging.run? twoSummaries, result.2.host.controllers.length = 1 ∧
      (∀ controller ∈ result.2.host.controllers, controller.holder = none) ∧
      (completed result.1).map (fun p => p.2.summary) = [⟨1, true⟩, ⟨2, false⟩] := by
    decide
  obtain ⟨alone, idle, summed⟩ := seen _ ran
  obtain ⟨controller, own⟩ := List.length_eq_one_iff.mp alone
  have free : controller.holder = none := idle controller (own ▸ List.mem_singleton_self controller)
  obtain ⟨-, file, first⟩ := only_first_summary_kept (Run.start.of_run? ran) enablesInfo_logging own free
  rw [List.nil_append] at file first
  rw [List.map_take, summed] at first
  exact ⟨past, s, ran, summed, file, first⟩

/-- Two sequences complete, and the summary of the second one never reaches the file. -/
theorem second_summary_dropped :
    ∃ past s, logging.run? twoSummaries = some (past, s) ∧
      (completed past).map (fun p => p.2.summary) = [⟨1, true⟩, ⟨2, false⟩] ∧
      s.journal.sink.final = lines .plain (written logging.journal.filter (entries past)) ∧
      summaries (written logging.journal.filter (entries past)) = [⟨1, true⟩] := by
  obtain ⟨⟨past, s⟩, ran⟩ : ∃ result, logging.run? twoSummaries = some result := ⟨_, rfl⟩
  have seen : ∀ result ∈ logging.run? twoSummaries,
      (completed result.1).map (fun p => p.2.summary) = [⟨1, true⟩, ⟨2, false⟩] ∧
      summaries (written logging.journal.filter (entries result.1)) = [⟨1, true⟩] := by
    decide
  obtain ⟨summed, first⟩ := seen _ ran
  have run : Run logging past s := Run.start.of_run? ran
  have opened : logging.journal.sink = .file [] [] := rfl
  refine ⟨past, s, ran, summed, ?_, first⟩
  rw [run.journal, Journal.final_enter (entries past) opened]
  rfl

end Logged

end FrameHost
