/-
The two programs. The first argument names the one to run, the others are its command line.

They only act: `Service.step`, `Monitor.step` and `Listener.run` say what happens next, the machine
is asked what they need to know, and what they leave in the journal is reported.
-/
import Patchbay.Command.Listen
import Patchbay.Host
import Patchbay.Monitor
import Patchbay.Service

namespace Patchbay.Main

open Std.Async (Async AsyncTask await)
open Host (Outbound Socket)

/-- Ends a program: prints what it says and gives its exit code. -/
def finish (e : Command.Exit) : IO UInt32 := do
  IO.print e.output
  if let some failure := e.failure then IO.eprintln failure
  return UInt32.ofNat e.code

def write (text : String) : IO Unit := do
  IO.print text
  (← IO.getStdout).flush

/-- The places where settings are looked for. -/
def settingsPlaces (config : Option String) : List String :=
  match config with
  | some path => [path]
  | none => Settings.defaultLocations

/-- Reads the files of a tree. -/
def reader (files : Files) : FileReader := fun path => (files.read path).mapError FileError.message

/-! ## Receive loops -/

instance : Inhabited Listener.Happening := ⟨.look⟩

/-- Goes through the waits of a receive loop among what happens around it. One wait after the other
is gone through by `take`, which says whether there is a next one. -/
def listen (happenings : Std.Channel Listener.Happening) (take : Listener.Wait → Async Flow) :
    Async Unit := do
  let mut sight : Listener.Sight := {}
  repeat
    let found := sight.look?
    let next ← match found with
      | some _ => happenings.tryRecv
      | none => some <$> await (← happenings.recv)
    match next, found with
    | some happening, _ => sight := sight.heed happening
    | none, some wait =>
      sight := sight.received
      if (← take wait) = .stop then return
    | none, none => pure ()

/-- A receive loop that was begun. -/
structure Loop where
  happenings : Std.Channel Listener.Happening
  task : AsyncTask Unit

/-- Begins a receive loop on a socket. -/
def Loop.begin (socket : Socket) (take : Listener.Wait → Async Flow) : IO Loop := do
  let happenings ← Std.Channel.new
  Host.forever (do
    let _ ← happenings.send (.arrive (← Host.receive socket)))
  return ⟨happenings, ← (listen happenings take).toIO⟩

/-! ## Forwarding -/

/-- What reaches a forwarder from outside. -/
inductive Mail where
  | ask (request : Request)
  /-- It is time to look at the rule files again. -/
  | look
  deriving Inhabited

/-- A forwarder at work. -/
structure Station where
  verbosity : Verbosity
  /-- The pause between two looks at the rule files, in milliseconds. -/
  pause : Nat
  outbound : Outbound
  mail : Std.Channel Mail
  service : IO.Ref Service
  sockets : IO.Ref (List (Socket × Net.SocketAddress))
  loops : IO.Ref (List Loop)

namespace Station

/-- How long a change waits for others, in milliseconds. -/
def quietPeriod : Nat := 100

/-- Collects the datagrams that would be sent. -/
def collect : Wire (List (Net.SocketAddress × List UInt8)) :=
  fun sent a bytes => (.sent, sent ++ [(a, bytes)])

/-- Gives the deliveries that the sends have already had. -/
def replay : Wire (List Delivery) := fun deliveries _ _ =>
  (deliveries.headD .sent, deliveries.drop 1)

/-- Goes through one wait of the loop at an address: finds out what is to be sent, sends it, and
reports what came of it. A message is forwarded under one routing from its first send to its last. -/
def receive (st : Station) (address : Net.SocketAddress) (wait : Listener.Wait) : Async Flow := do
  match (← st.service.get).forwarder with
  | none => return .stop
  | some f =>
    let port := address.port
    let (_, _, datagrams) := Listener.run port (f.handler port collect) [] [wait]
    let deliveries ← datagrams.mapM fun d => Host.send st.outbound f.settings.sendTimeout d.1 d.2
    let (flow, journal, _) := Listener.run port (f.handler port replay) deliveries [wait]
    Host.report st.verbosity journal
    return flow

/-- Stops every receive loop. -/
def hush (st : Station) : Async Unit := do
  let loops ← st.loops.get
  for l in loops do
    let _ ← l.happenings.send .signal
  for l in loops do
    await l.task

/-- One step of the service. Its loops are stopped before it says that it has shut down. -/
def step (st : Station) (machine : Machine) (a : Service.Action) : Async Unit := do
  if let some (s, journal) := (← st.service.get).step machine a then
    st.service.set s
    for e in journal do
      if let .event .shutdownComplete := e then st.hush
      Host.report st.verbosity [e]

/-- Takes in what was written to some files since they were looked at last. -/
def look (st : Station) (files : List String) : Async Unit := do
  let edits ← Host.edits (← st.service.get).files files
  if !edits.isEmpty then st.step Host.idle (.write edits)

def takeIn (st : Station) : Mail → Async Unit
  | .ask request => st.step Host.idle (.deliver request)
  | .look => do st.look (← st.service.get).settings.ruleFiles

/-- This machine's answers for the clients of a table. -/
def clients (st : Station) (texts : List (String × String)) : IO Machine :=
  Host.clients st.outbound <| match Table.addSources {} texts with
    | .ok t => t.registry.endpoints
    | .error _ => []

/-- Does what the service's own next step is about, and gives the machine's answers for it. -/
def prepare (st : Station) : Async Machine := do
  let s ← st.service.get
  match s.phase with
  | .starting ⟨file :: _, _⟩ | .reloading ⟨file :: _, _⟩ =>
    st.look [file]
    return Host.idle
  | .starting ⟨[], texts⟩ =>
    let machine ← st.clients texts
    match (Routing.ofSources machine s.settings.sendTimeout texts).1 with
    | .error _ => return machine
    | .ok _ =>
      let bound ← Host.listenAll s.settings.bindHost s.settings.ports
      st.sockets.set (bound.filterMap (·.toOption))
      return Host.withSockets machine bound
  | .reloading ⟨[], texts⟩ => st.clients texts
  | .listening =>
    st.loops.set (← (← st.sockets.get).mapM fun b => Loop.begin b.1 (st.receive b.2))
    let on (signal : Std.Async.Signal) (request : Request) : IO (Except String Unit) :=
      Host.onSignal signal (do
        let _ ← st.mail.send (.ask request))
    let _ ← on .sigint .interrupt
    let terminate ← on .sigterm .terminate
    let hangup ← on .sighup .hangup
    return { Host.idle with installHandlers := do terminate; hangup }
  | .armed =>
    -- What was written before the watcher is there is not reported.
    st.look s.settings.ruleFiles
    if s.watch then
      Host.forever (do
        Host.sleep st.pause
        let _ ← st.mail.send .look)
    return Host.idle
  | .settling _ =>
    Host.sleep quietPeriod
    return Host.idle
  | _ => return Host.idle

/-- Steps until the service has come to its end. What reaches it from outside goes first; when it can
do nothing by itself it waits for that. -/
def serve (st : Station) : Async (Option StartError) := do
  repeat
    match ← st.mail.tryRecv with
    | some mail => st.takeIn mail
    | none =>
      let s ← st.service.get
      match s.next?, s.phase with
      | some .proceed, _ => st.step (← st.prepare) .proceed
      | some a, _ => st.step Host.idle a
      | none, .stopped | none, .failed _ => break
      | none, _ => st.takeIn (← await (← st.mail.recv))
  match (← st.service.get).phase with
  | .failed e => return some e
  | _ => return none

end Station

def forward (arguments : List String) : IO UInt32 := do
  let options := match Command.Forward.ask arguments with
    | .run o => some o
    | _ => none
  let places := settingsPlaces (options.bind (·.config))
  let found ← Host.look places
  let rules := (options.bind fun o =>
    (Command.Forward.settings found.isFile (reader found) o).toOption).elim [] (·.rules.files)
  let files ← Host.look (places ++ rules)
  match Command.Forward.start files.isFile (reader files) arguments with
  | .error e => finish e
  | .ok s =>
    let service := Service.launch s.forwarder s.rules.watch files
    let station : Station := {
      verbosity := s.observability.verbosity
      pause := 1000 * s.rules.pollInterval
      outbound := ← Host.openOutbound
      mail := ← Std.Channel.new
      service := ← IO.mkRef service
      sockets := ← IO.mkRef []
      loops := ← IO.mkRef [] }
    match ← station.serve.block with
    | some e => finish (.failed Command.Forward.program e.message)
    | none => return 0

/-! ## Listening -/

/-- What reaches the monitor from outside. -/
inductive Knock where
  | arrival (loop : Nat) (arrival : Arrival)
  | interrupt
  deriving Inhabited

/-- Steps a monitor through some actions and shows what its loops have written. -/
def perform (v : Verbosity) (m : Monitor) (actions : List Monitor.Action) : IO Monitor :=
  actions.foldlM (fun m a => do
    match m.step a with
    | none => return m
    | some (m, journal) =>
      let (written, m) := m.flush
      write written
      Host.report v journal
      return m) m

/-- Starts a loop for every port and runs the monitor until all of them have ended. -/
def monitor (v : Verbosity) (sockets : List (Socket × Net.SocketAddress)) : Async Unit := do
  let knocks : Std.Channel Knock ← Std.Channel.new
  let mut m := Monitor.ofPorts (sockets.map (·.2.port))
  for (socket, i) in sockets.map (·.1) |>.zipIdx do
    m ← perform v m [.subscribe, .spawn]
    Host.forever (do
      let _ ← knocks.send (.arrival i (← Host.receive socket)))
  let _ ← Host.onSignal .sigint (do
    let _ ← knocks.send .interrupt)
  while m.runningCount ≠ 0 do
    let actions := match ← await (← knocks.recv) with
      | .arrival i a => [.receive i a, .handle i]
      | .interrupt => [.trigger]
    m ← perform v m (actions ++ (List.range m.loops.length).map .obey)

def listenTo (arguments : List String) : IO UInt32 := do
  let config := match Command.Listen.ask arguments with
    | .run o => o.config
    | _ => none
  let files ← Host.look (settingsPlaces config)
  match Command.Listen.start files.isFile (reader files) arguments with
  | .error e => finish e
  | .ok s =>
    let bound ← Host.listenAll s.monitor.bindHost s.monitor.ports
    match Command.Listen.listen (Host.withSockets Host.idle bound) s.monitor with
    | .error e => finish e
    | .ok (_, banner) =>
      write banner
      (monitor s.observability.verbosity (bound.filterMap (·.toOption))).block
      return 0

end Patchbay.Main

/-- Runs the program that the first argument names. -/
def main (arguments : List String) : IO UInt32 :=
  match arguments with
  | name :: rest =>
    if name = Patchbay.Command.Forward.program then Patchbay.Main.forward rest
    else if name = Patchbay.Command.Listen.program then Patchbay.Main.listenTo rest
    else Patchbay.Main.finish .misuse
  | [] => Patchbay.Main.finish .misuse
