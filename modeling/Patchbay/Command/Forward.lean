/-
The command line of the forwarding program. What it gives overrides the settings; the settings are
checked only then. With `--check` the rules are compiled and printed, and nothing is forwarded.
-/
import Patchbay.Command.Options
import Patchbay.Forwarder
import Patchbay.Settings.Source

namespace Patchbay

namespace Command

/-- A port as an option has it: a number with at most one sign. -/
def portOf? (text : String) : Option UInt16 := do
  let n ← Text.intOf? text.toList
  if 0 ≤ n ∧ n < 65536 then return UInt16.ofNat n.toNat else none

/-- The values of an option that needs at least one, if each is right. -/
def atLeastOne? {α : Type} (value? : String → Option α) (values : List String) :
    Option (List α) :=
  if values.isEmpty then none else values.mapM value?

/-- A path is not empty. -/
def path? (text : String) : Option String := if text.isEmpty then none else some text

end Command

namespace Command.Forward

def program : String := "osc-whispers"

inductive Switch where
  | version | config | file | port | bind | verbose | scope | quiet | check | help
  deriving DecidableEq, Repr

def forms : List (Form Switch) :=
  [⟨.version, none, "version", .nothing, "", "Print version"⟩,
    ⟨.config, some 'c', "config", .one, "CONFIG",
      "Configuration file (default: ./osctoolkit.toml, then /etc/osctoolkit/osctoolkit.toml)"⟩,
    ⟨.file, some 'f', "file", .several, "FILES",
      "Rule files to load, replacing those in the configuration"⟩,
    ⟨.port, some 'p', "port", .several, "PORTS",
      "Ports to listen on, replacing those in the configuration"⟩,
    ⟨.bind, none, "bind", .one, "BIND", "Host to bind listen sockets on"⟩,
    ⟨.verbose, some 'v', "verbose", .nothing, "", "Log details for every scope"⟩,
    ⟨.scope, some 'V', "verbose-scope", .several, "VERBOSE_SCOPE",
      "Log details for the listed scopes only [possible values: in, out, forward, listen]"⟩,
    ⟨.quiet, some 'q', "quiet", .nothing, "", "Disable all detail logging"⟩,
    ⟨.check, none, "check", .nothing, "",
      "Compile the rule files, print the resulting table and exit"⟩,
    ⟨.help, some 'h', "help", .nothing, "", "Print help"⟩]

def helpText : String := help program "Forward OSC messages according to rule files" forms

/-- What was given on a command line. -/
structure Options where
  config : Option String := none
  files : List String := []
  ports : List UInt16 := []
  bind : Option String := none
  verbose : Bool := false
  scopes : List Scope := []
  quiet : Bool := false
  check : Bool := false
  deriving DecidableEq, Repr

def scope? : String → Option Scope
  | "in" => some .incoming
  | "out" => some .outgoing
  | "forward" => some .rules
  | "listen" => some .listen
  | _ => none

/-- The options with one more occurrence, unless it is wrong or repeats what may stand only once. -/
def give (o : Options) : Occurrence Switch → Option Options
  | ⟨.config, [path]⟩ => do
    if o.config.isSome then none else return { o with config := some (← path? path) }
  | ⟨.file, values⟩ => do return { o with files := o.files ++ (← atLeastOne? path? values) }
  | ⟨.port, values⟩ => do return { o with ports := o.ports ++ (← atLeastOne? portOf? values) }
  | ⟨.bind, [host]⟩ => if o.bind.isSome then none else some { o with bind := some host }
  | ⟨.verbose, _⟩ => if o.verbose then none else some { o with verbose := true }
  | ⟨.scope, values⟩ => do return { o with scopes := o.scopes ++ (← atLeastOne? scope? values) }
  | ⟨.quiet, _⟩ => if o.quiet then none else some { o with quiet := true }
  | ⟨.check, _⟩ => if o.check then none else some { o with check := true }
  | _ => none

def accept (o : Options) (x : Occurrence Switch) : Asked Options :=
  match x.option with
  | .version => .version
  | .help => .help
  | _ => match give o x with
    | some o => .run o
    | none => .misuse

/-- At most one of the three ways to say what is logged. -/
def Options.consistent (o : Options) : Bool :=
  [o.verbose, !o.scopes.isEmpty, o.quiet].countP id ≤ 1

/-- What the command line asks for. -/
def ask (arguments : List String) : Asked Options :=
  let (occurrences, fits) := occurrences forms arguments
  match takeIn accept fits {} occurrences with
  | .run o => if o.consistent then .run o else .misuse
  | asked => asked

/-- What is logged, under the options. -/
def Options.observability (o : Options) (s : ObservabilitySettings) : ObservabilitySettings :=
  if o.verbose then s.setAllVerbose true
  else if o.quiet then s.setAllVerbose false
  else if o.scopes.isEmpty then s
  else o.scopes.foldl (fun s scope => s.setVerbose true scope) (s.setAllVerbose false)

/-- The settings with what the options override. -/
def Options.override (o : Options) (s : Settings) : Settings :=
  { s with
    rules.files := if o.files.isEmpty then s.rules.files else o.files
    listener.ports := if o.ports.isEmpty then s.listener.ports else o.ports
    listener.bindHost := o.bind.getD s.listener.bindHost
    observability := o.observability s.observability }

/-- The settings to forward with. -/
def settings (isFile : String → Bool) (read : FileReader) (o : Options) :
    Except SettingsError Settings := do
  let (s, _) ← Settings.resolve isFile read o.config
  let s := o.override s
  s.checked s.problems

/-- Prints the table of the rule files. -/
def check (read : FileReader) (files : List String) : Exit :=
  match Table.load read files with
  | .ok table => { output := table.render }
  | .error e => .failed program e.message

/-- The end of the program, or what it forwards with. -/
def start (isFile : String → Bool) (read : FileReader) (arguments : List String) :
    Except Exit Settings :=
  match ask arguments with
  | .misuse => .error .misuse
  | .version => .error { output := versionText program }
  | .help => .error { output := helpText }
  | .run o => match settings isFile read o with
    | .error e => .error (.failed program e.message)
    | .ok s => if o.check then .error (check read s.rules.files) else .ok s

end Command.Forward

/-- What the forwarder of these settings is started with. -/
def Settings.forwarder (s : Settings) : ForwarderSettings where
  ruleFiles := s.rules.files
  sendTimeout := s.forwarding.sendTimeout
  bindHost := s.listener.bindHost
  ports := s.listener.ports

end Patchbay
