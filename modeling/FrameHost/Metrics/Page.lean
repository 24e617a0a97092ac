import FrameHost.Metrics

/-! The page on which others read the metrics: a kind for each name, then a line for each set
of labels. -/

set_option autoImplicit false

namespace FrameHost.Metrics

/-- Values that only grow are counters; others go up and down. -/
inductive Kind where
  | gauge | counter
  deriving DecidableEq, Repr

def Kind.name : Kind → String
  | .gauge => "gauge"
  | .counter => "counter"

def labelText (value : String) : String :=
  String.ofList (value.toList.flatMap fun c =>
    if c = '\\' then ['\\', '\\']
    else if c = '"' then ['\\', '"']
    else if c = '\n' then ['\\', 'n']
    else [c])

def paragraph (kind : Kind) (name : String) (lines : List (Option (String × String) × Nat)) : String :=
  if lines.isEmpty then ""
  else
    let line (label : Option (String × String)) (value : Nat) : String :=
      let labels := match label with
        | some (key, text) => "\x7b" ++ key ++ "=\"" ++ labelText text ++ "\"\x7d"
        | none => ""
      name ++ labels ++ " " ++ toString value ++ "\n"
    "# TYPE " ++ name ++ " " ++ kind.name ++ "\n"
      ++ String.join (lines.map fun (label, value) => line label value) ++ "\n"

def page (m : Metrics) : String :=
  let verdict (graceful : Bool) (n : Nat) : List (Option (String × String) × Nat) :=
    if 0 < n then [(some ("graceful", if graceful then "true" else "false"), n)] else []
  paragraph .counter "frame_host_frame_starts_total"
      (m.starts.map fun (key, n) => (some ("frame", key), n))
    ++ paragraph .counter "frame_host_shutdowns_total"
      (verdict true m.graceful ++ verdict false m.abrupt)
    ++ paragraph .gauge "frame_host_frames_registered" (m.registered.map fun n => (none, n)).toList

end FrameHost.Metrics
