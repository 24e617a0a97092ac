import FrameHost.Host
import FrameHost.Log.Journal

/-! A host whose happenings are written to a log that it closes at the end of a shutdown. -/

set_option autoImplicit false

namespace FrameHost

structure Logged where
  host : Host
  journal : Log.Journal
  deriving Inhabited

namespace Logged

def follow (journal : Log.Journal) (time : String) (h : Host.Happening) : Log.Journal :=
  match h with
  | .shutdown _ (.logClosed _) => journal.close
  | _ =>
    match h.record? with
    | some r => journal.say time r
    | none => journal

def step (s : Logged) (time : String) (e : Host.Event) : Option (Logged × List Host.Happening) := do
  let (host, happenings) ← s.host.step e
  some ({ host, journal := happenings.foldl (fun j h => follow j time h) s.journal }, happenings)

/-- Several events, those aside that cannot happen. -/
def steps (s : Logged) (time : String) (events : List Host.Event) : Logged :=
  events.foldl
    (fun s e =>
      match s.step time e with
      | some (s, _) => s
      | none => s)
    s

end Logged

end FrameHost
