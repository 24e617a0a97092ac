import FrameHost.Config.Loading
import FrameHost.Http.RequestId
import FrameHost.Http.Router
import FrameHost.Log.Pattern
import FrameHost.Log.Stamp
import FrameHost.Metrics.Page
import FrameHost.Net.Binding
import FrameHost.Service
import Std.Async.Signal
import Std.Async.Timer
import Std.Http.Server
import Std.Time.DateTime

/-! The program on a real machine.

Threads share one `Service` behind a lock. Each of them lets something happen to it at the time
at which it has happened, and hands over to the system what the log has for it; what follows
from an event is decided by the steps of the service. -/

set_option autoImplicit false

namespace FrameHost.Machine

/-- The fault of the system behind an error. Its number may come with a minus sign. -/
def faultOf (e : IO.Error) : Files.Fault :=
  match e with
  | .noFileOrDirectory _ code reason | .interrupted _ code reason | .alreadyExists _ code reason
  | .invalidArgument _ code reason | .permissionDenied _ code reason
  | .resourceExhausted _ code reason | .inappropriateType _ code reason
  | .noSuchThing _ code reason | .otherError code reason | .resourceBusy code reason
  | .resourceVanished code reason | .unsupportedOperation code reason | .hardwareFault code reason
  | .unsatisfiedConstraints code reason | .illegalOperation code reason
  | .protocolError code reason | .timeExpired code reason =>
    .ofCode code.toInt32.toInt.natAbs reason
  | .unexpectedEof => .other 0 "unexpected end of file"
  | .userError reason => .other 0 reason

def bindReason (e : IO.Error) : String :=
  let fault := faultOf e
  match fault.code?.bind Net.Refusal.ofCode? with
  | some refusal => refusal.message
  | none => fault.message

def load (path : String) : IO (Except Config.LoadError Config) := do
  try return Config.ofBytes (← IO.FS.readBinFile path)
  catch e => return .error (.io (faultOf e))

def configOf (path : Option String) : IO (Except Program.Failure Config) := do
  match path with
  | none => return Program.configFrom (fun _ => .ok {}) none
  | some path =>
    let loaded ← load path
    return Program.configFrom (fun _ => loaded) (some path)

def openForAppend (path : String) : IO IO.FS.Handle := do
  if let some parent := (Files.Path.ofText path).parent? then
    unless parent.isEmpty do IO.FS.createDirAll parent.text
  IO.FS.Handle.mk path .append

def setUpLog (c : Config.Logging) : IO (Except Program.Failure (Log.Journal × IO.FS.Stream)) := do
  match Log.Journal.chooseFilter (← IO.getEnv Log.Journal.filterVariable) c.level with
  | .error defect => return .error (.logging (.filter defect))
  | .ok filter =>
    match c.file with
    | none => return .ok (.start filter c (.terminal []), ← IO.getStdout)
    | some path =>
      try
        let file ← openForAppend path
        return .ok (.start filter c (.opened []), .ofHandle file)
      catch e => return .error (.logging (.file path (faultOf e)))

def processNumber : IO Nat := do
  let text ← IO.FS.readFile "/proc/self/stat"
  return ((text.splitOn " ").headD "").toNat?.getD 0

def stampNow : IO String := do
  let nanos := (← Std.Time.Timestamp.now).toNanosecondsSinceUnixEpoch
  return Log.stamp (nanos.val.toNat / 1000)

structure Stage where
  told : IO.Promise Unit
  left : IO.Promise Unit

structure World where
  service : Std.Mutex Service
  output : IO.FS.Stream
  began : Nat
  stages : List Stage

namespace World

def update {α : Type} (w : World) (f : String → Service → Service × α) : IO α :=
  w.service.atomically do
    let time ← (stampNow : IO String)
    let now := (← (IO.monoMsNow : IO Nat)) - w.began
    -- Every change finds the clock of the service at the present time.
    let (s, result) := f time ((← get).happen time [.advance now])
    let (bytes, sink) := s.logged.journal.sink.handOver
    set { s with logged.journal.sink := sink }
    (w.output.write ⟨bytes.toArray⟩ : IO Unit)
    (w.output.flush : IO Unit)
    return result

def change (w : World) (f : String → Service → Service) : IO Unit :=
  w.update fun time s => (f time s, ())

end World

/-! ## Answering requests -/

structure Desk where
  id : FrameId

structure Display where
  world : World

def answer (r : Http.Response) (more : List (String × String)) :
    Std.Async.Async (Std.Http.Response Std.Http.Body.Full) := do
  let status := (Std.Http.Status.ofCode none (UInt16.ofNat r.status)).getD .internalServerError
  let builder := (r.headers ++ more).foldl
    (fun builder (name, value) => (builder.header? name value).getD builder)
    (Std.Http.Response.withStatus status)
  builder.fromBytes r.body.toUTF8

def requestId (head : Std.Http.Request.Head) : IO String := do
  match (Std.Http.Header.Name.ofString? Http.RequestId.header).bind head.headers.get? with
  | some value => return value.value
  | none => return Http.RequestId.ofBytes (← IO.getRandomBytes 16).data.toList

instance : Std.Http.Server.Handler Desk where
  ResponseBody := Std.Http.Body.Full
  onRequest desk request := do
    let name ← (requestId request.line : IO String)
    -- The server itself leaves out a body that is not wanted, and needs it to tell its length.
    let method := toString request.line.method
    let text : Http.RequestText :=
      { method := if method = "HEAD" then "GET" else method, target := toString request.line.uri }
    let response := match Http.Request.make? text with
      | some r => Http.respond desk.id r
      | none => { status := 400 }
    answer response [(Http.RequestId.header, name)]

instance : Std.Http.Server.Handler Display where
  ResponseBody := Std.Http.Body.Full
  onRequest display _ := do
    let page ← (display.world.update fun _ s => (s, s.host.metrics.page) : IO String)
    answer { status := 200, headers := [("content-type", "text/plain")], body := page } []

def listenable (a : Net.SocketAddress) : Std.Net.SocketAddress :=
  let port := UInt16.ofNat a.port
  match a.host with
  | .v4 octets => .v4 ⟨⟨Vector.ofFn fun i => UInt8.ofNat (octets.getD i.val 0)⟩, port⟩
  | .v6 groups _ => .v6 ⟨⟨Vector.ofFn fun i => UInt16.ofNat (groups.getD i.val 0)⟩, port⟩

def bound : Std.Net.SocketAddress → Net.SocketAddress
  | .v4 a => ⟨.v4 (a.addr.octets.toList.map (·.toNat)), a.port.toNat⟩
  | .v6 a => ⟨.v6 (a.addr.segments.toList.map (·.toNat)) 0, a.port.toNat⟩

/-! ## Running and stopping -/

/-- Servers do not tell what they are. -/
def manners : Std.Http.Config := { serverName := none }

namespace World

def serve (w : World) (i : Nat) (stage : Stage) (id : FrameId) (address : Net.SocketAddress) :
    Std.Async.Async Unit := do
  let server : Except IO.Error Std.Http.Server ←
    try pure (.ok (← Std.Http.Server.serve (listenable address) (Desk.mk id) manners))
    catch e => pure (.error e)
  match server with
  | .error e =>
    let failure : Http.Failure := .bind (bindReason e)
    w.change fun time s => s.allOnFrame time i (Http.Event.givingUp 0 failure)
  | .ok server =>
    let text := ((server.localAddr.map bound).getD address).text
    w.change fun time s => s.onFrame time i (.bind 0 text)
    Std.Async.Async.ofTask stage.told.result!
    server.shutdownAndWait
    w.change fun time s => s.allOnFrame time i (Http.Event.leaving 0)

def runFrame (w : World) (run i : Nat) (stage : Stage) : Std.Async.Async Unit := do
  let claimed ← w.update fun time s =>
    let s := (s.happen time [.startup (.beginRun run)]).allOnFrame time i [.spawn, .claim 0]
    (s, (s.frames[i]?).filter (·.running))
  if let some frame := claimed then
    match Net.SocketAddress.parse? frame.bindAddress with
    | some address => w.serve i stage frame.id address
    | none =>
      w.change fun time s => s.allOnFrame time i (Http.Event.givingUp 0 .address)
  w.change fun time s => s.happen time [.startup (.endRun run)]
  stage.left.resolve ()

def startAll (w : World) : IO Unit := do
  w.change fun time s => s.happen time [.startup .call]
  repeat
    match ← w.update fun time s => s.turn time with
    | .finished => break
    | .skipped => continue
    | .started run i =>
      if let some stage := w.stages[i]? then
        let _ ← Std.Async.Async.toIO (w.runFrame run i stage)
      let pause ← w.update fun _ s => (s, s.host.startInterval.millis)
      (Std.Async.sleep (.ofNat pause)).block
  w.change fun time s => s.endPass time

def waitFor (stage : Stage) (millis : Nat) : IO Unit := do
  let timer : Task (Except IO.Error Unit) ← Std.Async.Async.toIO (Std.Async.sleep (.ofNat millis))
  let _ ← IO.waitAny [stage.left.result!, Task.map (fun _ => ()) timer]

def stopFrame (w : World) (i : Nat) (stage : Stage) : IO Unit := do
  w.change fun time s => s.askToStop time i
  stage.told.resolve ()
  repeat
    let (remaining, graceful) ← w.update fun time s =>
      let (s, graceful) := s.stopped? time i
      (s, ((s.call?.map fun call => call.token.remaining s.now).getD 0, graceful))
    if graceful.isSome then break
    -- A token fires with its deadline, which the clock may reach a moment late.
    waitFor stage (remaining + 1)

def stopAll (w : World) : IO Unit := do
  let tasks ← w.stages.zipIdx.mapM fun (stage, i) =>
    IO.asTask (w.stopFrame i stage) .dedicated
  for task in tasks do
    let _ ← IO.wait task

def awaitSignal : IO Unit := do
  let interrupt ← Std.Async.Signal.Waiter.mk .sigint true
  let terminate ← Std.Async.Signal.Waiter.mk .sigterm true
  let _ ← IO.waitAny [← interrupt.wait, ← terminate.wait]

def live (w : World) : IO Program.Exit := do
  w.startAll
  awaitSignal
  let called ← w.update fun time s =>
    let s := s.signal time
    (s, s.call?.isSome)
  -- Nothing was called if the deadline cannot be expressed, and then nothing ends the program.
  unless called do
    repeat IO.sleep 1000000
  w.stopAll
  w.update fun time s =>
    let s := s.conclude time
    (s, s.exit?.getD .failure)

def offerMetrics (w : World) (c : Config.Observability) : IO (Except Program.Failure Unit) := do
  match Program.metricsAddress? c with
  | .error failure => return .error failure
  | .ok none => return .ok ()
  | .ok (some address) =>
    try
      let _ ← (Std.Http.Server.serve (listenable address) (Display.mk w) manners).block
      w.change fun time s => s.say time (Program.metricsRecord address)
      return .ok ()
    catch e =>
      return .error (.metrics (Program.metricsReason (bindReason e)))

end World

def host (config : Config) : IO (Except Program.Failure Program.Exit) := do
  match ← setUpLog config.logging with
  | .error failure => return .error failure
  | .ok (journal, output) =>
    let began ← IO.monoMsNow
    let stages ← config.frames.mapM fun _ => do
      return { told := ← IO.Promise.new, left := ← IO.Promise.new : Stage }
    let service := Service.ofConfig journal config.lifecycle
    let service := { service with logged.host.clock := { origin := began, now := 0 } }
    let w : World := { service := ← Std.Mutex.new service, output, began, stages }
    let pid ← processNumber
    w.change fun time s => s.say time (Program.startingRecord pid)
    match ← w.offerMetrics config.observability with
    | .error failure => return .error failure
    | .ok () =>
      w.change fun time s => s.register time config.frames
      return .ok (← w.live)

def run (arguments : List String) : IO Program.Exit := do
  match CommandLine.parse arguments with
  | .error refusal =>
    IO.eprint refusal.message
    return .usage
  | .ok .help =>
    IO.print CommandLine.helpText
    return .success
  | .ok (.run path) =>
    let result ← match ← configOf path with
      | .error failure => pure (.error failure)
      | .ok config => host config
    match result with
    | .ok exit => return exit
    | .error failure =>
      IO.eprint failure.message
      return .failure

end FrameHost.Machine

def main (arguments : List String) : IO UInt32 := do
  let exit ← FrameHost.Machine.run arguments
  return UInt32.ofNat exit.code
