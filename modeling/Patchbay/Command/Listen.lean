/-
The command line of the monitoring program. Its ports are added to those of the settings.
-/
import Patchbay.Command.Forward
import Patchbay.Echo

namespace Patchbay.Command.Listen

def program : String := "osc-listen"

inductive Switch where
  | config | listen | bind | verbose | help | version
  deriving DecidableEq, Repr

def forms : List (Form Switch) :=
  [⟨.config, some 'c', "config", .one, "CONFIG",
      "Configuration file (default: ./osctoolkit.toml, then /etc/osctoolkit/osctoolkit.toml)"⟩,
    ⟨.listen, some 'l', "listen", .several, "PORTS", "Additional ports to listen on"⟩,
    ⟨.bind, none, "bind", .one, "BIND", "Host to bind listen sockets on"⟩,
    ⟨.verbose, some 'v', "verbose", .nothing, "",
      "Show bound ports and the message of the day at startup"⟩,
    ⟨.help, some 'h', "help", .nothing, "", "Print help"⟩,
    ⟨.version, some 'V', "version", .nothing, "", "Print version"⟩]

def helpText : String := help program "Echo OSC messages received on one or more ports" forms

structure Options where
  config : Option String := none
  ports : List UInt16 := []
  bind : Option String := none
  verbose : Bool := false
  deriving DecidableEq, Repr

/-- The options with one more occurrence, unless it is wrong or repeats what may stand only once. -/
def give (o : Options) : Occurrence Switch → Option Options
  | ⟨.config, [path]⟩ => do
    if o.config.isSome then none else return { o with config := some (← path? path) }
  | ⟨.listen, values⟩ => do return { o with ports := o.ports ++ (← atLeastOne? portOf? values) }
  | ⟨.bind, [host]⟩ => if o.bind.isSome then none else some { o with bind := some host }
  | ⟨.verbose, _⟩ => if o.verbose then none else some { o with verbose := true }
  | _ => none

def accept (o : Options) (x : Occurrence Switch) : Asked Options :=
  match x.option with
  | .version => .version
  | .help => .help
  | _ => match give o x with
    | some o => .run o
    | none => .misuse

/-- What the command line asks for. -/
def ask (arguments : List String) : Asked Options :=
  let (occurrences, fits) := occurrences forms arguments
  takeIn accept fits {} occurrences

/-- The settings with what the options add. -/
def Options.override (o : Options) (s : Settings) : Settings :=
  { s with
    monitor.ports := mergePorts s.monitor.ports o.ports
    monitor.bindHost := o.bind.getD s.monitor.bindHost
    monitor.verbose := s.monitor.verbose || o.verbose }

/-- The settings to listen with. -/
def settings (isFile : String → Bool) (read : FileReader) (o : Options) :
    Except SettingsError Settings := do
  let (s, _) ← Settings.resolve isFile read o.config
  let s := o.override s
  s.checked s.monitorProblems

/-- The end of the program, or what it listens with. -/
def start (isFile : String → Bool) (read : FileReader) (arguments : List String) :
    Except Exit Settings :=
  match ask arguments with
  | .misuse => .error .misuse
  | .version => .error { output := versionText program }
  | .help => .error { output := helpText }
  | .run o => (settings isFile read o).mapError fun e => .failed program e.message

/-- What is shown when all ports are bound. -/
def banner (s : MonitorSettings) (addresses : List Net.SocketAddress) : String :=
  if s.verbose then
    let ports := String.intercalate ", " (addresses.map fun a => toString a.port.toNat)
    let motd := if s.motd.isEmpty then "" else s.motd ++ "\n\n"
    "Listening on ports: " ++ ports ++ "\n" ++ motd
  else ""

/-- Binds the ports and shows the banner. -/
def listen (machine : Machine) (s : MonitorSettings) :
    Except Exit (List Net.SocketAddress × String) :=
  match (Listener.bindAll machine s.bindHost 0 s.ports).1 with
  | .error e => .error (.failed program e.message)
  | .ok addresses => .ok (addresses, banner s addresses)

end Patchbay.Command.Listen
