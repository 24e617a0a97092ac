import FrameHost.Log.Journal
import FrameHost.Proofs.Log.Sink

/-! What a log leaves in its file.

The records that the filter lets through are written to the sink as lines, until the log is closed for the
first time; the file ends up with these lines. -/

set_option autoImplicit false

namespace FrameHost.Log

theorem Limit.admits_graver {limit : Limit} {level graver : Level} (more : graver.rank ≤ level.rank)
    (admitted : limit.admits level = true) : limit.admits graver = true := by
  cases limit with
  | off => exact admitted
  | upTo most =>
    have within : level.rank ≤ most.rank := of_decide_eq_true admitted
    exact decide_eq_true (Nat.le_trans more within)

theorem Filter.admits_graver {f : Filter} {r r' : Record} (target : r'.target = r.target)
    (fields : r'.fieldNames = r.fieldNames) (graver : r'.level.rank ≤ r.level.rank)
    (admitted : f.admits r = true) : f.admits r' = true := by
  have same : (f.directives.find? fun d => concerns d r') = f.directives.find? fun d => concerns d r := by
    simp only [concerns, target, fields]
  unfold admits at admitted ⊢
  rw [same]
  cases decides : f.directives.find? fun d => concerns d r with
  | none =>
    rw [decides] at admitted
    cases admitted
  | some d =>
    rw [decides] at admitted
    exact Limit.admits_graver graver admitted

namespace Journal

/-- What holders of a log do with it. -/
inductive Entry where
  | said (time : String) (r : Record)
  | closed

def enter (j : Journal) : Entry → Journal
  | .said time r => j.say time r
  | .closed => j.close

/-- The records that are let through before the log is closed for the first time, with their times. -/
def written (filter : Filter) : List Entry → List (String × Record)
  | [] => []
  | .said time r :: rest =>
    if filter.admits r then (time, r) :: written filter rest else written filter rest
  | .closed :: _ => []

def lines (style : Style) (records : List (String × Record)) : Bytes :=
  records.flatMap fun (time, r) => Text.bytesOf (style.line time r)

def Entry.operation? (filter : Filter) (style : Style) : Entry → Option Sink.Operation
  | .said time r => if filter.admits r then some (.write (Text.bytesOf (style.line time r))) else none
  | .closed => some .close

variable {j : Journal} {entries : List Entry} {content buffer : Bytes}

theorem written_operations (filter : Filter) (style : Style) (entries : List Entry) :
    Sink.written (entries.filterMap (Entry.operation? filter style)) = lines style (written filter entries) := by
  induction entries with
  | nil => rfl
  | cons entry rest ih =>
    cases entry with
    | said time r =>
      by_cases admitted : filter.admits r = true
      · simp [Entry.operation?, written, admitted, ih, lines]
      · simp [Entry.operation?, written, admitted, ih]
    | closed => simp [Entry.operation?, written, lines]

theorem sink_enter (j : Journal) (entries : List Entry) :
    (entries.foldl enter j).sink = j.sink.after (entries.filterMap (Entry.operation? j.filter j.style)) := by
  induction entries generalizing j with
  | nil => rfl
  | cons entry rest ih =>
    rw [List.foldl_cons, ih]
    cases entry with
    | said time r =>
      by_cases admitted : j.filter.admits r = true
      · simp [enter, say, Entry.operation?, admitted, Sink.after_cons, Sink.write]
      · simp [enter, say, Entry.operation?, admitted]
    | closed => simp [enter, close, Entry.operation?, Sink.after_cons, Sink.close]

/-- The file ends up with the lines of what is written, in this order and after what was there. -/
theorem final_enter (entries : List Entry) (opened : j.sink = .file content buffer) :
    (entries.foldl enter j).sink.final = content ++ buffer ++ lines j.style (written j.filter entries) := by
  obtain ⟨content', buffer', whole, became⟩ :=
    Sink.after_file content buffer (entries.filterMap (Entry.operation? j.filter j.style))
  rw [sink_enter, opened, became, ← written_operations, ← whole]
  split <;> rfl

end Journal

end FrameHost.Log
