import FrameHost.Proofs.Past
import FrameHost.Proofs.Http.Step

/-! The lives of an HTTP frame.

A life is any interleaving of the events of the frame's runs and shutdowns under a clock that does not
go back. It keeps a moment for each event. -/

set_option autoImplicit false

namespace FrameHost.Http

/-- An event of a life, when it happened, and the frame before and after it. -/
structure Moment where
  now : Nat
  before : Frame
  event : Event
  happenings : List Happening
  after : Frame

def Event.run? : Event → Option Nat
  | .claim r | .bind r _ | .fail r _ | .drain r | .clear r | .release r => some r
  | .spawn | .callShutdown _ | .take _ | .cancelToken _ | .observe _ | .expire _ => none

theorem Run.Work.run? {r : Nat} {run : Run} {address address' : Option String} {e : Event}
    {stage : RunStage} {happenings : List Happening}
    (work : run.Work r address e stage address' happenings) : e.run? = some r := by
  cases work <;> rfl

theorem Stop.Move.run? {now s : Nat} {running : Bool} {stop next : Stop} {e : Event}
    {happenings : List Happening} (move : stop.Move now running s e next happenings) :
    e.run? = none := by
  cases move <;> rfl

namespace Frame

def fresh (id : FrameId) (bindAddress : String) : Frame := { id, bindAddress }

inductive Life (start : Frame) : List Moment → Frame → Prop where
  | start : Life start [] start
  | step {past : List Moment} {f f' : Frame} {now : Nat} {e : Event} {happenings : List Happening}
      (life : Life start past f) (later : ∀ m ∈ past, m.now ≤ now)
      (stepped : f.step now e = some (f', happenings)) :
      Life start (past ++ [⟨now, f, e, happenings, f'⟩]) f'

/-- The life that a list of events at their times makes, if all of them can happen. -/
def live? (f : Frame) (clock : Nat) : List (Nat × Event) → Option (List Moment × Frame)
  | [] => some ([], f)
  | (now, e) :: rest =>
    if clock ≤ now then do
      let (f', happenings) ← f.step now e
      let (past, last) ← live? f' now rest
      some (⟨now, f, e, happenings, f'⟩ :: past, last)
    else none

section
variable {start f : Frame} {past before after : List Moment} {m : Moment}

theorem Life.of_live? {last : Frame} {more : List Moment} {events : List (Nat × Event)} {clock : Nat}
    (life : Life start past f) (recent : ∀ m ∈ past, m.now ≤ clock)
    (lived : f.live? clock events = some (more, last)) : Life start (past ++ more) last := by
  -- On the events to come, with the life so far growing at its end.
  induction events generalizing f past more clock with
  | nil =>
    cases lived
    simpa using life
  | cons timed rest ih =>
    obtain ⟨now, e⟩ := timed
    unfold live? at lived
    split at lived
    · rename_i later
      obtain ⟨⟨f', happenings⟩, stepped, lived⟩ := Option.bind_eq_some_iff.mp lived
      obtain ⟨⟨tail, last⟩, lived, same⟩ := Option.bind_eq_some_iff.mp lived
      cases same
      have grown := life.step (fun m member => Nat.le_trans (recent m member) later) stepped
      have still : ∀ m ∈ past ++ [⟨now, f, e, happenings, f'⟩], m.now ≤ now := by
        intro m member
        rcases List.mem_append.mp member with old | new
        · exact Nat.le_trans (recent m old) later
        · cases List.mem_singleton.mp new
          exact Nat.le_refl now
      simpa using ih grown still lived
    · cases lived

theorem Life.at_moment (life : Life start past f) (split : past = before ++ m :: after) :
    Life start before m.before ∧ Step m.now m.before m.event m.after m.happenings := by
  induction life generalizing after with
  | start => simp at split
  | step life later stepped ih =>
    rcases split_concat split with ⟨rfl, rfl, rfl⟩ | ⟨rest, -, same⟩
    · exact ⟨life, Step.of_step stepped⟩
    · exact ih same

end

end Frame

end FrameHost.Http
