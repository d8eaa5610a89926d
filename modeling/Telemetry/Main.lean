import Std.Async.Signal
import Std.Async.System
import Std.Http.Server
import Telemetry.Exporter.Restart
import Telemetry.Exporter.Serving
import Telemetry.Exporter.Start
import Telemetry.Logging.Filter
import Telemetry.Server.Error
import Telemetry.Settings.Loading
import Telemetry.Text.Duration

/-! The exporter as a program. What is decided is decided elsewhere: here files are read, requests and
    signals are passed on, and time passes. There is no client for the socket of the pods; where
    something listens there, asking for the pods fails. -/

namespace Telemetry
namespace Program

open Text

/-! ### Files and environment -/

/-- The number of an error of the system, which some calls give with a minus. -/
def errorNumber (code : UInt32) : Nat := if code.toNat < Nat.pow 2 31 then code.toNat else UInt32.size - code.toNat

/-- What the system says of an error. -/
def reasonOf : IO.Error → String
  | .noFileOrDirectory _ code details | .alreadyExists _ code details | .permissionDenied _ code details
  | .inappropriateType _ code details | .noSuchThing _ code details | .invalidArgument _ code details
  | .resourceExhausted _ code details | .resourceBusy code details | .otherError code details =>
    s!"{details.capitalize} (os error {errorNumber code})"
  | e => toString e

/-- The bytes of a file, or why it cannot be opened. -/
def readBytes (path : String) : IO (Except String (List UInt8)) := do
  try
    let bytes ← IO.FS.readBinFile path
    pure (.ok bytes.toList)
  catch e => pure (.error (reasonOf e))

/-- The variables of the environment that stand for options. -/
def environment : IO (String → Option String) := do
  let names := Flag.settable.filterMap Flag.environmentName?
  let values ← names.mapM fun name => do
    let value ← IO.getEnv name
    pure (name, value)
  pure fun name => (List.lookup name values).join

/-- The directory in which the file of settings is looked for. -/
def configDirectory : IO String := do
  let given ← IO.getEnv "GPU_TELEMETRY_CONFIG_DIR"
  let common ← IO.getEnv "XDG_CONFIG_HOME"
  let home ← IO.getEnv "HOME"
  match given, common, home with
  | some dir, _, _ => pure dir
  | none, some dir, _ => pure s!"{dir}/gpu-telemetry-exporter"
  | none, none, some dir => pure s!"{dir}/.config/gpu-telemetry-exporter"
  | none, none, none => pure "./.config"

/-- The settings that the command line and the file of settings give. -/
def loadSettings (a : Arguments) : IO (Except SettingsError Settings) := do
  let dir ← configDirectory
  let path := a.config.getD s!"{dir}/config.yaml"
  match ← readBytes path, a.config with
  | .error _, some path => pure (.error (.missingFile path))
  | .error _, none => pure (Settings.load dir none a)
  | .ok bytes, _ =>
    match decode? bytes with
    | none => pure (.error .unreadableFile)
    | some content => pure (Settings.load dir (some content) a)

/-- The listing of the pods, as far as the socket tells whether there is one. -/
def podListing (socket : String) : IO (Action Simulation.State Report PodListing) := do
  try
    let _ ← IO.FS.readBinFile socket
    pure (Action.ofExcept (.error (Report.ofText s!"Failed to connect to the kubelet at {quoted socket}")))
  catch
    | .noFileOrDirectory .. => pure (Action.ofExcept (.ok none))
    | _ => pure (Action.ofExcept (.error (Report.ofText s!"Failed to connect to the kubelet at {quoted socket}")))

/-- What the exporter finds around it. -/
def surroundings (s : Settings) : IO (Exporter.Surroundings Simulation.State) := do
  let contents ← (s.collectors :: s.simulation.toList).mapM fun path => do
    let content ← readBytes path
    pure (path, content)
  let hostname ← Std.Async.System.getHostName
  let pods ← podListing s.podResourcesSocket
  pure { file := fun path => (List.lookup path contents).getD (.error ""), hostname, pods }

/-! ### The server -/

/-- What the server answers from. -/
structure Pages where
  serving : IO.Ref (Serving Simulation.State)

/-- The statuses of the answers that there are. -/
def statusOf : Nat → Std.Http.Status
  | 200 => .ok
  | 404 => .notFound
  | 405 => .methodNotAllowed
  | _ => .serviceUnavailable

/-- An answer in the form in which it is sent. -/
def send (r : Response) : Std.Async.Async (Std.Http.Response Std.Http.Body.Full) := do
  let b := Std.Http.Response.withStatus (statusOf r.status)
  let b := match r.contentType with | none => b | some v => b.header! "Content-Type" v
  let b := match r.allow with | none => b | some v => b.header! "Allow" v
  b.fromBytes r.body.toUTF8

instance : Std.Http.Server.Handler Pages where
  ResponseBody := Std.Http.Body.Full
  onRequest pages request := do
    let x ← pages.serving.get
    send (Router.respond x.store (toString request.line.method) (toString request.line.uri))

/-- The address of a socket as the network library has it. -/
def netAddress : SocketAddress → Std.Net.SocketAddress
  | .v4 a b c d port => .v4 { addr := .ofParts a b c d, port }
  | .v6 groups _ port =>
    .v6 { addr := { segments := Vector.ofFn fun i : Fin 8 => groups.getD i.val 0 }, port }

/-- The server, or why there is none. -/
def bind (address : SocketAddress) (pages : Pages) : IO (Except ServerError Std.Http.Server) := do
  try
    let server ← (Std.Http.Server.serve (netAddress address) pages).block
    pure (.ok server)
  catch e => pure (.error (.unbound address (reasonOf e)))

/-! ### Signals -/

def systemSignal : Signal → Std.Async.Signal
  | .hangup => .sighup
  | .interrupt => .sigint
  | .terminate => .sigterm
  | .quit => .sigquit

/-- What waits for a signal. -/
structure Listener where
  signal : Signal
  waiter : Std.Async.Signal.Waiter
  arrival : Std.Async.AsyncTask Int

namespace Listener

def start (signal : Signal) : IO Listener := do
  let waiter ← Std.Async.Signal.Waiter.mk (systemSignal signal) true
  pure { signal, waiter, arrival := ← waiter.wait }

/-- The signal if it has come, and what waits for the next one. -/
def look (l : Listener) : IO (List Signal × Listener) := do
  if ← IO.hasFinished l.arrival then pure ([l.signal], { l with arrival := ← l.waiter.wait })
  else pure ([], l)

end Listener

/-- The listeners for all signals. -/
abbrev Listeners := IO.Ref (List Listener)

def listen : IO Listeners := do
  let ls ← Signal.all.mapM Listener.start
  IO.mkRef ls

/-- The signals that have come since the last look. -/
def arrived (listeners : Listeners) : IO (List Signal) := do
  let ls ← listeners.get
  let looks ← ls.mapM Listener.look
  listeners.set (looks.map Prod.snd)
  pure (looks.flatMap Prod.fst)

def stopListening (listeners : Listeners) : IO Unit := do
  for l in ← listeners.get do
    l.waiter.stop

/-! ### Lifetimes -/

/-- The time between two looks at what has happened. -/
def lookEvery : UInt32 := 20

/-- Waits until some time has passed or the run was cancelled. -/
partial def pause (pages : Pages) (milliseconds : Nat) : IO Unit := do
  let x ← pages.serving.get
  if milliseconds = 0 || x.run.cancelled then pure ()
  else do
    IO.sleep lookEvery
    pause pages (milliseconds - lookEvery.toNat)

/-- Runs the pipeline to its end; every text is published as soon as it is there. -/
partial def runPipeline (p : Pipeline Simulation.State) (interval : Nat) (pages : Pages) : IO Delivery.Ending := do
  pages.serving.modify fun x => x.steps p [.turn, .publish]
  let x ← pages.serving.get
  match x.run.ending with
  | some e => pure e
  | none =>
    pause pages interval
    runPipeline p interval pages

/-- Waits until a signal came or the pipeline has ended. -/
partial def wait (listeners : Listeners) (pages : Pages) (x : Lifetime) : IO Lifetime := do
  let new ← arrived listeners
  let x := { x with queue := x.queue ++ new }
  let serving ← pages.serving.get
  match x.queue, serving.run.ending with
  | _ :: _, _ => pure (x.step .signal)
  | [], some e => pure (x.steps [.pipelineEnds e, .notice])
  | [], none =>
    IO.sleep lookEvery
    wait listeners pages x

/-- Waits for a task for at most some time. -/
partial def await {α : Type} (t : Task α) (milliseconds : Nat) : IO (Option α) := do
  if ← IO.hasFinished t then pure (some t.get)
  else if milliseconds = 0 then pure none
  else do
    IO.sleep lookEvery
    await t (milliseconds - lookEvery.toNat)

/-- The report of a lifetime that took too long to end. -/
def tooSlow (s : Settings) : Report :=
  Report.ofText s!"The exporter did not stop within {duration s.shutdownTimeoutMs.toNat}"

/-- The end of a task of the server. -/
def serverEnding : Except IO.Error Unit → Delivery.Ending
  | .ok () => .ok ()
  | .error e => .error (ServerError.failed (reasonOf e)).report

/-- The end of a task of the pipeline. -/
def pipelineEnding : Except IO.Error Delivery.Ending → Delivery.Ending
  | .ok e => e
  | .error e => .error ((Report.ofText (toString e)).wrap "The pipeline task panicked")

/-- One lifetime: its result, and the signals that it left. -/
def live (s : Settings) (listeners : Listeners) (queue : List Signal) :
    IO (Except Report (Option Signal) × List Signal) := do
  match Exporter.start (← surroundings s) s with
  | .error r => pure (.error r, queue)
  | .ok (p, world) =>
    let pages : Pages := { serving := ← IO.mkRef (Serving.start s.channelCapacity.toNat world) }
    match ← bind s.address pages with
    | .error e => pure (.error e.report, queue)
    | .ok server =>
      let pipeline ← IO.asTask (runPipeline p s.collectIntervalMs.toNat pages) .dedicated
      let x ← wait listeners pages { queue }
      pages.serving.modify fun x => x.step p .cancel
      let stopping ← IO.asTask server.shutdownAndWait.block .dedicated
      let limit := s.shutdownTimeoutMs.toNat
      match ← await pipeline limit, ← await stopping limit with
      | some e, some e' =>
        let x := x.steps [.pipelineEnds (pipelineEnding e), .serverEnds (serverEnding e')]
        pure (x.result?.getD (.error (tooSlow s)), x.queue)
      | _, _ => pure (.error (tooSlow s), x.queue)

/-- Lifetime after lifetime, until one of them is the last. -/
partial def serve (s : Settings) (listeners : Listeners) (queue : List Signal) : IO (Except Report Unit) := do
  let (result, queue) ← live s listeners queue
  match Service.verdict result with
  | some e => pure e
  | none => serve s listeners queue

/-! ### The program -/

def usage : String :=
  let line (f : Flag) : String :=
    let letter := match f.letter? with | some c => s!"-{c}, " | none => "    "
    let value := if f.takesValue then " <VALUE>" else ""
    s!"  {letter}--{f.long}{value}\n"
  "Usage: exporter [OPTIONS]\n\nOptions:\n" ++ String.join (Flag.all.map line)

/-- Says why there are no arguments to go on with. -/
def refuse : ArgumentsError → IO UInt32
  | .displayHelp => do
    IO.print usage
    pure 0
  | .displayVersion => do
    IO.print (Arguments.versionText (← configDirectory))
    pure 0
  | _ => do
    IO.eprint s!"error: the arguments are not valid\n\n{usage}"
    pure 2

/-- Says what went wrong. -/
def fail (messages : List String) : IO UInt32 := do
  IO.eprintln ("Error: " ++ "\n  ".intercalate messages)
  pure 1

/-- Runs the exporter with the settings, if there is nothing wrong with them. -/
def runWith (s : Settings) : IO UInt32 := do
  match s.fault?, LogFilter.parse? s.logLevel with
  | some message, _ => fail [message]
  | none, none => fail [LogFilter.invalid s.logLevel]
  | none, some _ =>
    let listeners ← listen
    let ending ← serve s listeners []
    stopListening listeners
    match ending with
    | .ok () => pure 0
    | .error r => fail r.messages

def run (args : List String) : IO UInt32 := do
  match Arguments.parse args (← environment) with
  | .error e => refuse e
  | .ok a =>
    match ← loadSettings a with
    | .error e => fail [e.message]
    | .ok s => runWith s

end Program
end Telemetry

def main (args : List String) : IO UInt32 := Telemetry.Program.run args
