/-
The settings of both programs with their defaults, by section.
-/
import Patchbay.Verbosity

namespace Patchbay

/-- Where the forwarder listens. -/
structure ListenerSettings where
  bindHost : String := "0.0.0.0"
  ports : List UInt16 := [9000]
  deriving DecidableEq, Repr

/-- The rule files and whether changes of them are watched for. -/
structure RuleSettings where
  files : List String := []
  watch : Bool := true
  /-- How often the watcher looks, in seconds. -/
  pollInterval : Nat := 2
  deriving DecidableEq, Repr

structure ForwardingSettings where
  /-- The bound on one send, in milliseconds. -/
  sendTimeout : Nat := 250
  deriving DecidableEq, Repr

/-- What is logged and counted. -/
structure ObservabilitySettings where
  logLevel : String := "info"
  verboseIncoming : Bool := false
  verboseOutgoing : Bool := false
  verboseRules : Bool := false
  verboseListen : Bool := false
  metricsEnabled : Bool := false
  metricsAddress : String := "127.0.0.1:9091"
  deriving DecidableEq, Repr

/-- What the monitor listens on and shows. -/
structure MonitorSettings where
  bindHost : String := "0.0.0.0"
  ports : List UInt16 := []
  /-- The message of the day, shown at the start if `verbose`. -/
  motd : String := ""
  verbose : Bool := false
  deriving DecidableEq, Repr

structure Settings where
  listener : ListenerSettings := {}
  rules : RuleSettings := {}
  forwarding : ForwardingSettings := {}
  observability : ObservabilitySettings := {}
  monitor : MonitorSettings := {}
  deriving DecidableEq, Repr

namespace ObservabilitySettings

def isVerbose (o : ObservabilitySettings) : Scope → Bool
  | .incoming => o.verboseIncoming
  | .outgoing => o.verboseOutgoing
  | .rules => o.verboseRules
  | .listen => o.verboseListen

def setVerbose (o : ObservabilitySettings) (on : Bool) : Scope → ObservabilitySettings
  | .incoming => { o with verboseIncoming := on }
  | .outgoing => { o with verboseOutgoing := on }
  | .rules => { o with verboseRules := on }
  | .listen => { o with verboseListen := on }

/-- Switches every scope. -/
def setAllVerbose (o : ObservabilitySettings) (on : Bool) : ObservabilitySettings :=
  Scope.all.foldl (fun o s => o.setVerbose on s) o

def verbosity (o : ObservabilitySettings) : Verbosity :=
  ⟨o.logLevel, Scope.all.filter o.isVerbose⟩

end ObservabilitySettings

end Patchbay
