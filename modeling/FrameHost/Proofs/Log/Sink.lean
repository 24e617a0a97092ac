import FrameHost.Log.Sink

/-! What a file holds of what is written to it.

A write may move bytes from the buffer to the file and a flush moves all of them, so only the file and the
buffer together can be followed: they hold what was there at first and then all that is written, until the
first close. It empties the buffer, and nothing that anybody does later reaches the file. -/

set_option autoImplicit false

namespace FrameHost.Log.Sink

def Operation.bytes : Operation → Bytes
  | .write bytes => bytes
  | .flush | .close => []

def written (operations : List Operation) : Bytes :=
  (operations.takeWhile (· ≠ .close)).flatMap Operation.bytes

/-- A sink after some operations, in the order in which their callers got its lock. -/
def after (s : Sink) (operations : List Operation) : Sink :=
  operations.foldl (fun s operation => (s.step operation).1) s

section
variable {content buffer bytes : Bytes} {operations later : List Operation} {s : Sink}

theorem append_writeFile :
    (writeFile content buffer bytes).1 ++ (writeFile content buffer bytes).2 = content ++ buffer ++ bytes := by
  unfold writeFile
  split
  · exact (List.append_assoc ..).symm
  · -- The buffer is emptied first, or is full to the byte, or was empty already.
    by_cases flushed : capacity - buffer.length < bytes.length <;> by_cases large : capacity ≤ bytes.length
    · simp [flushed, large]
    · simp [flushed, large]
    · have empty : buffer = [] := List.length_eq_zero_iff.mp (by unfold capacity at *; omega)
      simp [large, empty]
    · simp [flushed, large]

theorem write_file (content buffer bytes : Bytes) : ∃ content' buffer',
    (file content buffer).write bytes = .file content' buffer' ∧ content' ++ buffer' = content ++ buffer ++ bytes :=
  ⟨_, _, rfl, append_writeFile⟩

@[simp] theorem written_nil : written [] = [] := rfl

@[simp] theorem written_write : written (.write bytes :: later) = bytes ++ written later := rfl

@[simp] theorem written_flush : written (.flush :: later) = written later := rfl

@[simp] theorem written_close : written (.close :: later) = [] := rfl

theorem after_cons (s : Sink) (operation : Operation) (later : List Operation) :
    s.after (operation :: later) = (s.step operation).1.after later := rfl

theorem after_append (s : Sink) (operations later : List Operation) :
    s.after (operations ++ later) = (s.after operations).after later :=
  List.foldl_append

theorem step_write (s : Sink) (bytes : Bytes) : (s.step (.write bytes)).2 = bytes.length := by
  cases s <;> rfl

theorem after_closed (content : Bytes) (operations : List Operation) :
    (closed content).after operations = .closed content := by
  induction operations with
  | nil => rfl
  | cons operation rest ih => cases operation <;> exact ih

/-- Whatever is done with a file, it and its buffer hold together what they held and what was written before
the first close, and once there was a close it is the file that holds all of it. -/
theorem after_file (content buffer : Bytes) (operations : List Operation) : ∃ content' buffer',
    content' ++ buffer' = content ++ buffer ++ written operations ∧
      (file content buffer).after operations =
        if .close ∈ operations then .closed (content' ++ buffer') else .file content' buffer' := by
  induction operations generalizing content buffer with
  | nil => exact ⟨content, buffer, by simp, rfl⟩
  | cons operation rest ih =>
    cases operation with
    | write bytes =>
      obtain ⟨content', buffer', wrote, whole⟩ := write_file content buffer bytes
      obtain ⟨content'', buffer'', all, rested⟩ := ih content' buffer'
      refine ⟨content'', buffer'', by rw [all, whole, written_write, List.append_assoc], ?_⟩
      rw [after_cons, ← write, wrote, rested]
      simp
    | flush =>
      obtain ⟨content', buffer', all, rested⟩ := ih (content ++ buffer) []
      refine ⟨content', buffer', by rw [all, written_flush, List.append_nil], ?_⟩
      rw [after_cons, step, rested]
      simp
    | close =>
      -- The buffer goes to the file, and the rest of the operations finds it closed.
      refine ⟨content, buffer, by simp, ?_⟩
      rw [after_cons, step, after_closed]
      simp

/-- What clones of a sink and its guards can count on, after any of their operations on a file that held
some content before. -/
structure Kept (content : Bytes) (operations : List Operation) : Prop where
  whole : ((opened content).after operations).content ++ ((opened content).after operations).buffer =
    content ++ written operations
  /-- Every write takes all of its bytes, before and after a close. -/
  taken : ∀ bytes, (((opened content).after operations).step (.write bytes)).2 = bytes.length
  /-- A closed file holds everything, and stays as it is whatever is done later. -/
  closed : .close ∈ operations →
    ((opened content).after operations).buffer = [] ∧
    ((opened content).after operations).content = content ++ written operations ∧
    ∀ later, (opened content).after (operations ++ later) = (opened content).after operations

/-- A sink keeps all that is written to its file before the first close, and nothing else. -/
theorem file_kept (content : Bytes) (operations : List Operation) : Kept content operations := by
  obtain ⟨content', buffer', whole, became⟩ := after_file content [] operations
  rw [List.append_nil] at whole
  refine ⟨?_, fun bytes => step_write _ bytes, fun closes => ?_⟩
  · rw [opened, became]
    split
    · exact (List.append_nil _).trans whole
    · exact whole
  · rw [if_pos closes, whole] at became
    refine ⟨congrArg buffer became, congrArg Sink.content became, fun later => ?_⟩
    rw [after_append, opened, became, after_closed]

end

end FrameHost.Log.Sink
