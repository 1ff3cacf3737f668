/-
The forwarder: listeners that share one routing. A routing is a table and the clients that were
built for it, published together. Starting loads the rules, then binds every port; reloading
publishes a new routing or, if anything fails, keeps the old one.
-/
import Patchbay.Listener
import Patchbay.Pool

namespace Patchbay

open Net

structure Routing where
  table : Table := {}
  pool : Pool := {}
  deriving Repr

inductive StartError where
  | rules (error : LoadError)
  | client (error : ClientError)
  | listener (error : BindError)
  | watch (reason : String)
  | signals (reason : String)
  deriving DecidableEq, Repr

def StartError.message : StartError → String
  | .rules e => "failed to load rules: " ++ e.message
  | .client e => e.message
  | .listener e => e.message
  | .watch reason => "failed to watch rule files: " ++ reason
  | .signals reason => "failed to install signal handlers: " ++ reason

/-- Reads the text of a file, or says why it cannot be read. -/
abbrev FileReader := String → Except String String

namespace Routing

/-- What a loaded table leaves in the journal. -/
def loadedEntries (t : Table) : Journal :=
  .event (.rulesLoaded t.rules.length t.registry.size) ::
    t.rules.map (fun rule => .event (.ruleLoaded rule (rule.targets.filterMap t.target?))) ++
    [.set .routingRules t.rules.length, .set .routingTargets t.registry.size]

/-- Compiles the sources and builds the clients. -/
def ofSources (machine : Machine) (timeout : Nat) (sources : List (String × String)) :
    Except StartError Routing × Journal :=
  match Table.addSources {} sources with
  | .error e => (.error (.rules e), [])
  | .ok table => match Pool.build machine timeout table.registry with
    | (.error e, journal) => (.error (.client e), journal)
    | (.ok pool, journal) => (.ok ⟨table, pool⟩, journal ++ loadedEntries table)

/-- Reads the rule files, compiles them and builds the clients. -/
def load (read : FileReader) (machine : Machine) (timeout : Nat) (files : List String) :
    Except StartError Routing × Journal :=
  match Table.readAll read files with
  | .error e => (.error (.rules e), [])
  | .ok sources => ofSources machine timeout sources

end Routing

/-- What a forwarder is started with. -/
structure ForwarderSettings where
  ruleFiles : List String
  sendTimeout : Nat
  bindHost : String
  ports : List UInt16
  deriving DecidableEq, Repr

structure Forwarder where
  settings : ForwarderSettings
  routing : Routing
  /-- How many routings have been published. -/
  generation : Nat
  /-- The addresses that are listened on, in the order of the ports. -/
  addresses : List SocketAddress
  deriving Repr

namespace Forwarder

/-- Binds listen sockets and begins their receive loops. -/
structure Stage (σ : Type) where
  bind : Listener.Binder σ
  serve : σ → SocketAddress → σ

/-- Binds every port on the stage, then begins a receive loop at each of them. -/
def listenThrough {σ : Type} (stage : Stage σ) (s : σ) (settings : ForwarderSettings)
    (routing : Routing) : (Except StartError Forwarder × Journal) × σ :=
  match Listener.bindThrough stage.bind settings.bindHost s 0 settings.ports with
  | ((.error e, journal), s) => ((.error (.listener e), journal), s)
  | ((.ok addresses, journal), s) =>
    ((.ok ⟨settings, routing, 1, addresses⟩, journal ++ [.event (.listenAddresses addresses)]),
      addresses.foldl stage.serve s)

/-- Loads the rules, then listens on every port. -/
def startThrough {σ : Type} (read : FileReader) (machine : Machine) (stage : Stage σ) (s : σ)
    (settings : ForwarderSettings) : (Except StartError Forwarder × Journal) × σ :=
  match Routing.load read machine settings.sendTimeout settings.ruleFiles with
  | (.error e, journal) => ((.error e, journal), s)
  | (.ok routing, journal) =>
    let ((result, more), s) := listenThrough stage s settings routing
    ((result, journal ++ more), s)

/-- The listen sockets of a machine. -/
def stage (machine : Machine) : Stage Unit := ⟨Listener.binder machine, fun s _ => s⟩

def listen (machine : Machine) (settings : ForwarderSettings) (routing : Routing) :
    Except StartError Forwarder × Journal :=
  (listenThrough (stage machine) () settings routing).1

theorem listen_eq (machine : Machine) (settings : ForwarderSettings) (routing : Routing) :
    listen machine settings routing =
      match Listener.bindAll machine settings.bindHost 0 settings.ports with
      | (.error e, journal) => (.error (.listener e), journal)
      | (.ok addresses, journal) => (.ok ⟨settings, routing, 1, addresses⟩,
          journal ++ [.event (.listenAddresses addresses)]) := by
  simp only [listen, listenThrough, stage, Listener.bindAll]
  rcases Listener.bindThrough (Listener.binder machine) settings.bindHost () 0 settings.ports with
    ⟨⟨_ | addresses, journal⟩, s⟩ <;> rfl

def start (read : FileReader) (machine : Machine) (settings : ForwarderSettings) :
    Except StartError Forwarder × Journal :=
  (startThrough read machine (stage machine) () settings).1

theorem start_eq (read : FileReader) (machine : Machine) (settings : ForwarderSettings) :
    start read machine settings =
      match Routing.load read machine settings.sendTimeout settings.ruleFiles with
      | (.error e, journal) => (.error e, journal)
      | (.ok routing, journal) =>
        let (result, more) := listen machine settings routing
        (result, journal ++ more) := by
  simp only [start, startThrough, listen]
  rcases Routing.load read machine settings.sendTimeout settings.ruleFiles with
    ⟨_ | routing, journal⟩ <;> rfl

/-- Publishes a routing, or keeps the present one. -/
def publish (f : Forwarder) : Except StartError Routing → Forwarder × Journal
  | .ok routing =>
    ({ f with routing := routing, generation := f.generation + 1 },
      [.increment (.reloads true), .event .rulesReloaded])
  | .error e => (f, [.increment (.reloads false), .event (.reloadFailed e.message)])

/-- Loads the rule files again; `none` if that went well. -/
def reload (f : Forwarder) (read : FileReader) (machine : Machine) :
    Option StartError × Forwarder × Journal :=
  let (result, journal) :=
    Routing.load read machine f.settings.sendTimeout f.settings.ruleFiles
  let (f, more) := f.publish result
  (match result with | .error e => some e | .ok _ => none, f, journal ++ more)

/-- Forwards every message that is received on `port` under the present routing. -/
def handler {σ : Type} (f : Forwarder) (port : UInt16) (wire : Wire σ) : Handler σ := fun s m =>
  let outcome := Dispatcher.dispatch ⟨port, .idle⟩ f.routing.table (f.routing.pool.sink wire) s m
  (.goOn, outcome.journal, outcome.sink)

/-- Takes in one arrival at one of the listen addresses. -/
def receive {σ : Type} (f : Forwarder) (address : SocketAddress) (wire : Wire σ) (s : σ)
    (a : Arrival) : Journal × σ :=
  let (_, journal, s) := Listener.receive address.port (f.handler address.port wire) s a
  (journal, s)

/-- Stopping every listener ends a forwarder. -/
def shutdown : Journal := [.event .shutdownComplete]

end Forwarder

end Patchbay
