import FrameHost.Log.Pattern
import FrameHost.Net.Binding
import FrameHost.Service
import FrameHost.Session.Marks

/-! The life of the program on a machine that stands alone: it starts, gets a signal and ends.

Frames have no connections, so they stop as soon as they are told to. -/

set_option autoImplicit false

namespace FrameHost.Session.Lifetime

open Marks (someTime)

structure Outcome where
  exit : Program.Exit
  output : String := ""
  errors : String := ""
  files : Files.Tree

structure State where
  service : Service
  taken : List Net.SocketAddress := []
  deriving Inhabited

namespace State

def update (s : State) (f : Service → Service) : State := { s with service := f s.service }

def bindFrame (s : State) (i : Nat) : State :=
  let address := ((s.service.frames[i]?).map (·.bindAddress)).getD ""
  let fail (failure : Http.Failure) : State :=
    s.update (·.allOnFrame someTime i (Http.Event.givingUp 0 failure))
  match Net.SocketAddress.parse? address with
  | none => fail .address
  | some a =>
    match a.bound? s.taken with
    | .ok a => { s with taken := s.taken ++ [a] }.update (·.onFrame someTime i (.bind 0 a.boundText))
    | .error refusal => fail (.bind refusal.message)

/-- Start all frames, each of which has its turn in the pause after its start. -/
def startAll (s : State) : State :=
  let s := s.update (·.happen someTime [.startup .call])
  let s := (List.range s.service.frames.length).foldl
    (fun s i =>
      let s := s.update fun service =>
        ((service.turn someTime).1.happen someTime [.startup (.beginRun i)]).allOnFrame someTime i
          [.spawn, .claim 0]
      (s.bindFrame i).update fun service =>
        service.happen someTime [.advance (service.now + service.host.startInterval.millis)])
    s
  s.update fun service => (service.turn someTime).1.endPass someTime

def signal (s : State) : State :=
  s.update fun service =>
    let service := service.signal someTime
    let service := (List.range service.frames.length).foldl
      (fun service i =>
        let service := service.askToStop someTime i
        -- Nothing is connected, so a frame that is told to stop leaves at once.
        let service := service.allOnFrame someTime i (Http.Event.leaving 0)
        (service.stopped? someTime i).1)
      service
    service.conclude someTime

end State

def rules : List Marks.Rule :=
  let leads (name : String) : List String :=
    [name ++ "=", Text.literal name ++ ":", Log.rendered Log.italic name ++ Log.rendered Log.dim "="]
  [Marks.times, Marks.numbersAfter (leads "pid") "<pid>",
    Marks.numbersAfter (leads "remaining_ms") "<ms>", Marks.ports]

def readable (text : String) : String := Marks.all rules text

def leave (files : Files.Tree) (journal : Log.Journal) : String × Files.Tree :=
  let text := Text.ofBytes journal.sink.content
  match journal.location with
  | some place => ("", { files with root := files.root.put place (.file text) })
  | none => (text, files)

/-- The number of the process: any will do. -/
def somePid : Nat := 1000

def offerMetrics (s : State) (c : Config.Observability) : Except Program.Failure State :=
  match Program.metricsAddress? c with
  | .error failure => .error failure
  | .ok none => .ok s
  | .ok (some address) =>
    match address.bound? s.taken with
    | .error refusal => .error (.metrics (Program.metricsReason refusal.message))
    | .ok bound =>
      .ok ({ s with taken := s.taken ++ [bound] }.update (·.say someTime (Program.metricsRecord address)))

def live (journal : Log.Journal) (config : Config) : State × Except Program.Failure Program.Exit :=
  let service := Service.ofConfig journal config.lifecycle
  let s : State := { service := service.say someTime (Program.startingRecord somePid) }
  match offerMetrics s config.observability with
  | .error failure => (s, .error failure)
  | .ok s =>
    let s := (s.update (·.register someTime config.frames)).startAll.signal
    (s, .ok (s.service.exit?.getD .failure))

def host (files : Files.Tree) (environment : Option String) (path : Option String) : Outcome :=
  let refused (files : Files.Tree) (output : String) (failure : Program.Failure) : Outcome :=
    { exit := .failure, output, errors := failure.message, files }
  match Program.configFrom (Config.loadFrom files) path with
  | .error failure => refused files "" failure
  | .ok config =>
    match Log.Journal.setUp files environment config.logging with
    | .error failure => refused files "" (.logging failure)
    | .ok (journal, files) =>
      let (s, result) := live journal config
      let (output, files) := leave files s.service.logged.journal
      match result with
      | .ok exit => { exit, output, files }
      | .error failure => refused files output failure

def run (files : List (String × String)) (environment : Option String)
    (arguments : List String) : Outcome :=
  let files := Files.Tree.ofFiles files
  match CommandLine.parse arguments with
  | .error refusal => { exit := .usage, errors := refusal.message, files }
  | .ok .help => { exit := .success, output := CommandLine.helpText, files }
  | .ok (.run path) => host files environment path

/-! ## Reading what is left -/

def linesOf (text : String) : List String :=
  let lines := text.splitOn "\n"
  let lines := if lines.getLast? = some "" then lines.dropLast else lines
  lines.map fun line => if line.endsWith "\r" then (line.dropEnd 1).toString else line

/-- Lines of a text: those that frames say while they serve, sorted, apart from the others in
their order. The former run beside the rest. -/
structure Lines where
  main : List String
  http : List String
  deriving DecidableEq, Repr

def Lines.of (text : String) : Lines :=
  let (http, main) := (linesOf (readable text)).partition fun line =>
    (line.splitOn Http.target).length ≠ 1
  { main, http := http.mergeSort fun a b => a ≤ b }

def Outcome.linesIn? (o : Outcome) (path : String) : Option Lines :=
  match o.files.readFile path with
  | .ok content => some (.of content)
  | .error _ => none

end FrameHost.Session.Lifetime
