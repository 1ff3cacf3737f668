/-
The machine that the programs run on: texts of files, addresses of hosts, sockets and signals. The
library decides on views of files and on answers of a `Machine`; here they are gathered.
-/
import Patchbay.Files
import Patchbay.Listener
import Std.Async.DNS
import Std.Async.Signal
import Std.Async.Timer
import Std.Async.UDP
import Std.Sync.Channel

namespace Patchbay.Host

open Net
open Std.Async (Async Signal)

abbrev Socket := Std.Async.UDP.Socket

/-- The words for the numbers of system errors. -/
def systemWords : List (Nat × String) :=
  [(1, "Operation not permitted"), (2, "No such file or directory"), (13, "Permission denied"),
    (20, "Not a directory"), (21, "Is a directory"), (22, "Invalid argument"),
    (36, "File name too long"), (90, "Message too long"),
    (97, "Address family not supported by protocol"), (98, "Address already in use"),
    (99, "Cannot assign requested address"), (101, "Network is unreachable"),
    (111, "Connection refused")]

/-- A system error by its number, which may have been negated. -/
def systemText (code : UInt32) (details : String) : String :=
  let number := if code < 0x80000000 then code.toNat else (0 - code).toNat
  (systemWords.lookup number).getD details ++ " (os error " ++ toString number ++ ")"

def errorText : IO.Error → String
  | .noFileOrDirectory _ code details | .alreadyExists _ code details
  | .permissionDenied _ code details | .inappropriateType _ code details
  | .noSuchThing _ code details | .invalidArgument _ code details
  | .resourceExhausted _ code details | .interrupted _ code details
  | .otherError code details | .resourceBusy code details | .resourceVanished code details
  | .unsupportedOperation code details | .hardwareFault code details
  | .unsatisfiedConstraints code details | .illegalOperation code details
  | .protocolError code details | .timeExpired code details => systemText code details
  | .unexpectedEof => "unexpected end of file"
  | .userError text => text

/-! ## Files -/

/-- The node at a path. -/
def find (path : String) : IO (Except FileError Node) := do
  try
    return .ok (.file (← IO.FS.readBinFile path).toList)
  catch e =>
    let reason := errorText e
    return if reason = FileError.notFound.message then .error .notFound
      else if reason = FileError.isDirectory.message then .ok .directory
      else .ok (.sealed reason)

/-- The edits that put at a path what was found there. -/
def editsTo (path : String) : Except FileError Node → List Edit
  | .ok (.file bytes) => [.write path bytes]
  | .ok (.sealed reason) => [.seal path reason]
  | .ok .directory => [.remove path, .makeDirectory path]
  | .error _ => [.remove path]

/-- The edits after which a tree has at some paths what there is at them now. -/
def edits (fs : Files) (paths : List String) : IO (List Edit) := do
  let found ← paths.mapM fun path => return (path, ← find path)
  return found.flatMap fun (path, node) =>
    if (fs.find path).toOption = node.toOption then [] else editsTo path node

/-- What there is at some paths. -/
def look (paths : List String) : IO Files := return Files.ofEdits (← edits {} paths)

/-! ## Addresses and sockets -/

def toNative (a : SocketAddress) : Std.Net.SocketAddress :=
  match a.ip with
  | .v4 w x y z => .v4 ⟨.ofParts w x y z, a.port⟩
  | .v6 groups => .v6 ⟨⟨groups⟩, a.port⟩

def ofNativeIp : Std.Net.IPAddr → IpAddress
  | .v4 a => .v4 a.octets[0] a.octets[1] a.octets[2] a.octets[3]
  | .v6 a => .v6 a.segments

def ofNative : Std.Net.SocketAddress → SocketAddress
  | .v4 a => ⟨ofNativeIp (.v4 a.addr), a.port, 0⟩
  | .v6 a => ⟨ofNativeIp (.v6 a.addr), a.port, 0⟩

/-- All addresses of a host with a port. -/
def resolve (host : String) (port : UInt16) : IO (Except String (List SocketAddress)) := do
  match IpAddress.parseV4? host with
  | some ip => return .ok [⟨ip, port, 0⟩]
  | none =>
    try
      let ips ← (Std.Async.DNS.getAddrInfo host "").block
      return .ok ((ips.toList.map ofNativeIp).eraseDups.map fun ip => ⟨ip, port, 0⟩)
    catch e => return .error (errorText e)

/-- A socket bound to an address. -/
def bind (a : SocketAddress) : IO (Except String Socket) := do
  try
    let socket ← Std.Async.UDP.Socket.mk
    socket.bind (toNative a)
    return .ok socket
  catch e => return .error (errorText e)

/-- A listen socket, with the address that it got. -/
def listen (host : String) (port : UInt16) : IO (Except String (Socket × SocketAddress)) := do
  match ← resolve host port with
  | .error reason => return .error reason
  | .ok [] => return .error "could not resolve to any address"
  | .ok (a :: _) => match ← bind a with
    | .error reason => return .error reason
    | .ok socket => return .ok (socket, ofNative (← socket.getSockName))

/-- Listen sockets for ports in order, up to the first that cannot be had. -/
def listenAll (host : String) : List UInt16 → IO (List (Except String (Socket × SocketAddress)))
  | [] => return []
  | port :: rest => do
    match ← listen host port with
    | .error reason => return [.error reason]
    | .ok bound => return .ok bound :: (← listenAll host rest)

/-- The outbound sockets of both address families. -/
structure Outbound where
  v4 : Except String Socket
  v6 : Except String Socket

def openOutbound : IO Outbound := do
  let v4 ← bind ⟨.v4 0 0 0 0, 0, 0⟩
  let v6 ← bind ⟨.v6 (Vector.replicate 8 0), 0, 0⟩
  return ⟨v4, v6⟩

def Outbound.socket (o : Outbound) (v4 : Bool) : Except String Socket := if v4 then o.v4 else o.v6

/-- A machine that is asked for nothing. -/
def idle : Machine where
  resolve _ := .error "unknown endpoint"
  openOutbound _ := .error "not opened"
  bind _ _ _ := .error "no socket"

/-- The answers of this machine about some endpoints. -/
def clients (outbound : Outbound) (endpoints : List Endpoint) : IO Machine := do
  let resolved ← endpoints.mapM fun e => do return (e, ← resolve e.host e.port)
  return { idle with
    resolve := fun e => (resolved.lookup e).getD (idle.resolve e)
    openOutbound := fun v4 => (outbound.socket v4).map fun _ => () }

/-- A machine with the listen sockets that were asked for. -/
def withSockets (machine : Machine) (bound : List (Except String (Socket × SocketAddress))) :
    Machine :=
  { machine with bind := fun place _ _ => (bound[place]?.getD (.error "no socket")).map (·.2) }

/-- What the next receive comes to. -/
def receive (socket : Socket) : Async Arrival := do
  try
    let (bytes, peer) ← socket.recv (UInt64.ofNat datagramLimit)
    let name := match peer with
      | some a => (ofNative a).text
      | none => ""
    return .datagram name bytes.toList
  catch e => return .failure (errorText e)

/-- Lets so many milliseconds pass. -/
def sleep (duration : Nat) : Async Unit :=
  Std.Async.sleep (Std.Time.Millisecond.Offset.ofNat duration)

instance : Inhabited Delivery := ⟨.timedOut⟩

/-- Sends a datagram within so many milliseconds. -/
def send (outbound : Outbound) (timeout : Nat) (a : SocketAddress) (bytes : List UInt8) :
    Async Delivery :=
  match outbound.socket a.ip.isV4 with
  | .error reason => return .failed reason
  | .ok socket => Async.race
      (do
        try
          socket.send bytes.toByteArray (some (toNative a))
          return .sent
        catch e => return .failed (errorText e))
      (do
        sleep timeout
        return .timedOut)

/-! ## Loops -/

/-- Begins to repeat an action for as long as the program runs. -/
def forever (action : Async Unit) : IO Unit :=
  Async.block (Std.Async.background (do repeat action))

/-- Performs an action at every delivery of a signal. -/
def onSignal (signal : Signal) (action : IO Unit) : IO (Except String Unit) := do
  try
    let waiter ← Signal.Waiter.mk signal true
    forever (do
      let _ ← Std.Async.await (← waiter.wait)
      action)
    return .ok ()
  catch e => return .error (errorText e)

/-- Writes the events that are shown to the error output, one a line. -/
def report (v : Verbosity) (journal : Journal) : IO Unit := do
  for e in journal.shown v do
    let fields := e.fields.map fun f => " " ++ f.1 ++ "=" ++ f.2
    IO.eprintln (e.level.name ++ " " ++ e.topic.name ++ ": " ++ e.message ++ String.join fields)

end Patchbay.Host
