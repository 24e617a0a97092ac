import FrameHost.Text.Similarity

/-! The command line: the path of a configuration, or the wish for help.

Arguments are taken one by one. An option without its value waits for it, and a value that was
given on its own is looked at when the next option comes or at the end. -/

set_option autoImplicit false

namespace FrameHost.CommandLine

def program : String := "frame-host"

inductive Known where
  | config | help
  deriving DecidableEq, Repr

def Known.name : Known → String
  | .config => "config"
  | .help => "help"

def Known.all : List Known := [.config, .help]

def Known.usage : Known → String
  | .config => "--config <CONFIG>"
  | .help => "--help"

inductive Request where
  | help
  | run (config : Option String)
  deriving DecidableEq, Repr

inductive Refusal where
  | unexpected (argument : String) (similar : Option Known) (used : List Known)
  | valueNeeded
  | valueNotWanted (value : String) (used : List Known)
  | repeated
  deriving DecidableEq, Repr

def helpText : String :=
  "Run several HTTP frames in one process\n\n"
    ++ "Usage: " ++ program ++ " [OPTIONS]\n\n"
    ++ "Options:\n"
    ++ "  -c, --config <CONFIG>  Path to a TOML configuration file\n"
    ++ "  -h, --help             Print help\n"

def usageLine (used : List Known) : String :=
  let options := if used.isEmpty then ["[OPTIONS]"] else used.map Known.usage
  "Usage: " ++ program ++ " " ++ String.intercalate " " options ++ "\n\n"

def Refusal.message (r : Refusal) : String :=
  let text := match r with
    | .unexpected argument similar used =>
      let tip := match similar with
        | some known => "  tip: a similar argument exists: '--" ++ known.name ++ "'\n\n"
        | none => ""
      "unexpected argument '" ++ argument ++ "' found\n\n" ++ tip ++ usageLine used
    | .valueNeeded =>
      "a value is required for '" ++ Known.config.usage ++ "' but none was supplied\n\n"
    | .valueNotWanted value used =>
      "unexpected value '" ++ value ++ "' for '" ++ Known.help.usage
        ++ "' found; no more were expected\n\n" ++ usageLine used
    | .repeated =>
      "the argument '" ++ Known.config.usage ++ "' cannot be used multiple times\n\n" ++ usageLine []
  "error: " ++ text ++ "For more information, try '--help'.\n"

structure Progress where
  config : Option String := none
  /-- An option that still waits for its value, or whose value has not been looked at. -/
  pending : Option (Option String) := none
  deriving DecidableEq, Repr, Inhabited

namespace Progress

def accept (p : Progress) (value : String) : Except Refusal Progress :=
  if p.config.isSome then .error .repeated
  else if value = "" then .error .valueNeeded
  else .ok { config := some value }

def settle (p : Progress) : Except Refusal Progress :=
  match p.pending with
  | none => .ok p
  | some none => .error .valueNeeded
  | some (some value) => { p with pending := none }.accept value

/-- Options that have been used, as they are named next to an argument that is not known. -/
def used (p : Progress) : List Known :=
  match p.config, p.pending with
  | some _, _ | _, some (some _) => [.config]
  | none, _ => []

def unexpectedLong (p : Progress) (name : String) : Refusal :=
  let similar := Known.all.find? fun known => Text.alike name known.name
  let meant := similar.toList.filter fun known => !p.used.contains known
  .unexpected ("--" ++ name) similar (p.used ++ meant)

end Progress

inductive Taken where
  | more (progress : Progress)
  | help
  deriving Repr

def takeLong (p : Progress) (text : List Char) : Except Refusal Taken :=
  let name := String.ofList (text.takeWhile (· ≠ '='))
  let value := match text.dropWhile (· ≠ '=') with
    | _ :: value => some (String.ofList value)
    | [] => none
  match Known.all.find? (·.name = name), value with
  | some .config, some value => do return .more (← (← p.settle).accept value)
  | some .config, none => do return .more { ← p.settle with pending := some none }
  -- What is pending comes first, so its refusal goes before the help.
  | some .help, none => do
    let _ ← p.settle
    return .help
  | some .help, some value =>
    .error (.valueNotWanted value ((if p.config.isSome then [.config] else []) ++ [.help]))
  | none, _ => .error (p.unexpectedLong name)

def takeShort (p : Progress) (text : List Char) : Except Refusal Taken :=
  match text with
  | 'c' :: [] => do return .more { ← p.settle with pending := some none }
  -- An equals sign is not part of the value.
  | 'c' :: '=' :: value => do return .more (← (← p.settle).accept (String.ofList value))
  | 'c' :: value => do return .more (← (← p.settle).accept (String.ofList value))
  | 'h' :: _ => do
    let _ ← p.settle
    return .help
  | c :: _ => .error (.unexpected ("-" ++ String.singleton c) none [])
  | [] => .ok (.more p)

def takeValue (p : Progress) (text : String) : Except Refusal Taken :=
  if p.pending = some none then .ok (.more { p with pending := some (some text) })
  else .error (.unexpected text none [])

def take (p : Progress) (argument : String) : Except Refusal Taken :=
  match argument.toList with
  | '-' :: '-' :: text => takeLong p text
  | '-' :: c :: text => takeShort p (c :: text)
  | _ => takeValue p argument

/-- Take arguments. Two hyphens end the options, and nothing but options is known. -/
def takeAll (p : Progress) : List String → Except Refusal Request
  | [] => do return .run (← p.settle).config
  | argument :: rest =>
    if argument = "--" then
      match rest with
      | [] => do return .run (← p.settle).config
      | next :: _ => .error (.unexpected next none [])
    else
      match take p argument with
      | .ok (.more p) => takeAll p rest
      | .ok .help => .ok .help
      | .error refusal => .error refusal

def parse (arguments : List String) : Except Refusal Request := takeAll {} arguments

end FrameHost.CommandLine
