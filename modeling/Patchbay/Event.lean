/-
Log events. Each has a level, a topic, a message and named texts. Four topics are verbosity scopes,
which a user may switch on one by one; the others belong to the part of the program that reports.
-/
import Patchbay.Net.Address
import Patchbay.Osc.Listing
import Patchbay.Plan

namespace Patchbay

/-- The levels from the gravest to the most detailed. -/
inductive Level where
  | error | warn | info | debug | trace
  deriving DecidableEq, Repr

def Level.all : List Level := [.error, .warn, .info, .debug, .trace]

def Level.rank : Level → Nat
  | .error => 1
  | .warn => 2
  | .info => 3
  | .debug => 4
  | .trace => 5

def Level.name : Level → String
  | .error => "ERROR"
  | .warn => "WARN"
  | .info => "INFO"
  | .debug => "DEBUG"
  | .trace => "TRACE"

/-- What a verbosity switch refers to. -/
inductive Scope where
  /-- Every received message. -/
  | incoming
  /-- Every forwarded message. -/
  | outgoing
  /-- The rules after each load. -/
  | rules
  /-- The bound listen addresses. -/
  | listen
  deriving DecidableEq, Repr

def Scope.all : List Scope := [.incoming, .outgoing, .rules, .listen]

def Scope.topic : Scope → String
  | .incoming => "osc_whispers::incoming"
  | .outgoing => "osc_whispers::outgoing"
  | .rules => "osc_whispers::rules"
  | .listen => "osc_whispers::listen"

inductive Topic where
  | scope (scope : Scope)
  | dispatching | clients | listeners | lifecycle | watching | monitoring
  deriving DecidableEq, Repr

def Topic.name : Topic → String
  | .scope s => s.topic
  | .dispatching => "osc_whispers::dispatch::engine"
  | .clients => "osc_whispers::net::client"
  | .listeners => "osc_whispers::net::listener"
  | .lifecycle => "osc_whispers::lifecycle::startup"
  | .watching => "osc_whispers::config::watcher"
  | .monitoring => "osc_whispers::monitor"

/-- What can be reported. -/
inductive Event where
  | messageReceived (port : UInt16) (peer : String) (message : Osc.Message)
  | bundleDropped (port : UInt16) (peer : String) (elements : Nat)
  | decodeFailed (port : UInt16) (peer : String) (error : Osc.DecodeError)
  | receiveFailed (port : UInt16) (reason : String)
  | stopSignalReceived (port : UInt16)
  | stoppedByHandler (port : UInt16)
  | listening (address : Net.SocketAddress)
  | listenAddresses (addresses : List Net.SocketAddress)
  | unmatched (port : UInt16) (path : String)
  | forwarded (port : UInt16) (target : Target) (path : String) (arguments : List Osc.Argument)
  | forwardFailed (port : UInt16) (target : Target) (path reason : String)
  | clientReady (endpoint : Endpoint) (address : Net.SocketAddress)
  | severalAddresses (endpoint : Endpoint) (candidates : List Net.SocketAddress)
      (chosen : Net.SocketAddress)
  | rulesLoaded (rules targets : Nat)
  | ruleLoaded (rule : Rule) (targets : List Target)
  | rulesReloaded
  | reloadFailed (reason : String)
  | shutdownRequested
  | hangupReceived
  | reloadingAfterChange (path : String)
  | shutdownComplete
  | watcherStarted (files : List String)
  | changeDetected (path : String)
  | exitCommandReceived (port : UInt16)
  | writeFailed (port : UInt16) (reason : String)

namespace Event

def level : Event → Level
  | messageReceived .. | stopSignalReceived .. | listenAddresses .. | forwarded .. | clientReady ..
  | severalAddresses .. | ruleLoaded .. => .debug
  | bundleDropped .. | decodeFailed .. | receiveFailed .. | forwardFailed .. | writeFailed .. =>
    .warn
  | unmatched .. => .trace
  | reloadFailed .. => .error
  | stoppedByHandler .. | listening .. | rulesLoaded .. | rulesReloaded | shutdownRequested
  | hangupReceived | reloadingAfterChange .. | shutdownComplete | watcherStarted ..
  | changeDetected .. | exitCommandReceived .. => .info

def topic : Event → Topic
  | messageReceived .. => .scope .incoming
  | forwarded .. => .scope .outgoing
  | ruleLoaded .. => .scope .rules
  | listenAddresses .. => .scope .listen
  | bundleDropped .. | decodeFailed .. | receiveFailed .. | stopSignalReceived ..
  | stoppedByHandler .. | listening .. => .listeners
  | unmatched .. | forwardFailed .. => .dispatching
  | clientReady .. | severalAddresses .. => .clients
  | rulesLoaded .. | rulesReloaded | reloadFailed .. | shutdownRequested | hangupReceived
  | reloadingAfterChange .. | shutdownComplete => .lifecycle
  | watcherStarted .. | changeDetected .. => .watching
  | exitCommandReceived .. | writeFailed .. => .monitoring

def message : Event → String
  | messageReceived .. => "OSC in"
  | bundleDropped .. => "Dropping OSC bundle"
  | decodeFailed .. => "OSC decode error"
  | receiveFailed .. => "OSC receive error"
  | stopSignalReceived .. => "Listener received shutdown signal"
  | stoppedByHandler .. => "Listener stopped by handler"
  | listening .. => "Listening for OSC"
  | listenAddresses .. => "Listen addresses"
  | unmatched .. => "No rule matched"
  | forwarded .. => "OSC out"
  | forwardFailed .. => "Forward failed"
  | clientReady .. => "OSC client ready"
  | severalAddresses .. => "Target has several addresses"
  | rulesLoaded .. => "Forwarding rules loaded"
  | ruleLoaded .. => "Rule"
  | rulesReloaded => "Rules reloaded"
  | reloadFailed .. => "Reload failed, keeping previous rules"
  | shutdownRequested => "Shutdown signal received"
  | hangupReceived => "SIGHUP received, reloading rules"
  | reloadingAfterChange .. => "Reloading rules"
  | shutdownComplete => "Shutdown complete"
  | watcherStarted .. => "Rule file watcher started"
  | changeDetected .. => "Rule file change detected"
  | exitCommandReceived .. => "Exit command received"
  | writeFailed .. => "Failed to write message"

def portField (port : UInt16) : String × String := ("port", toString port.toNat)

def addressesText (addresses : List Net.SocketAddress) : String :=
  Osc.bracketed (addresses.map Net.SocketAddress.text)

/-- The named texts of an event. -/
def fields : Event → List (String × String)
  | messageReceived port peer m =>
    [portField port, ("peer", peer), ("path", m.address),
      ("args", Osc.argumentsRecord m.arguments)]
  | bundleDropped port peer elements =>
    [portField port, ("peer", peer), ("packets", toString elements)]
  | decodeFailed port peer error => [portField port, ("peer", peer), ("error", error.message)]
  | receiveFailed port reason => [portField port, ("error", reason)]
  | stopSignalReceived port | stoppedByHandler port | exitCommandReceived port => [portField port]
  | listening address => [("address", address.text)]
  | listenAddresses addresses => [("addresses", addressesText addresses)]
  | unmatched port path => [portField port, ("path", path)]
  | forwarded port target path arguments =>
    [portField port, ("to", target.text), ("path", path),
      ("args", Osc.argumentsRecord arguments)]
  | forwardFailed port target path reason =>
    [portField port, ("to", target.text), ("path", path), ("error", reason)]
  | clientReady endpoint address => [("endpoint", endpoint.text), ("addr", address.text)]
  | severalAddresses endpoint candidates chosen =>
    [("endpoint", endpoint.text), ("candidates", addressesText candidates),
      ("chosen", chosen.text)]
  | rulesLoaded rules targets => [("rules", toString rules), ("targets", toString targets)]
  | ruleLoaded rule targets =>
    [("file", rule.origin.file), ("line", toString rule.origin.line), ("prefix", rule.head),
      ("truncate", toString rule.truncate),
      ("targets", String.intercalate " " (targets.map Target.text))]
  | reloadFailed reason => [("error", reason)]
  | reloadingAfterChange path | changeDetected path => [("path", path)]
  | watcherStarted files => [("files", Osc.bracketed (files.map Text.quoted))]
  | writeFailed port reason => [portField port, ("error", reason)]
  | rulesReloaded | shutdownRequested | hangupReceived | shutdownComplete => []

/-- The names that a filter may ask for. The message counts as a field of its own. -/
def fieldNames (e : Event) : List String := "message" :: e.fields.map (·.1)

end Event

end Patchbay
