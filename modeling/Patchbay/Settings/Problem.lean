/-
What can be wrong with settings that could be read. Every problem is reported, in a fixed order;
a port that is listed again is reported at each repetition. Port zero asks for any free port and
may repeat.
-/
import Patchbay.Settings.Basic

namespace Patchbay

inductive Problem where
  | noListenPorts
  | repeatedPort (port : UInt16)
  | noRuleFiles
  | zeroSendTimeout
  | zeroPollInterval
  | badMetricsAddress (address : String)
  deriving DecidableEq, Repr

def Problem.message : Problem → String
  | noListenPorts => "no listen ports configured"
  | repeatedPort port => s!"listen port {port.toNat} configured more than once"
  | noRuleFiles => "no rule files configured"
  | zeroSendTimeout => "forwarding.send_timeout_ms must be greater than 0"
  | zeroPollInterval => "rules.poll_interval_secs must be greater than 0"
  | badMetricsAddress address => s!"invalid metrics address `{address}`"

/-- The repetitions in `ports`, after the ports `before` them. -/
def repetitions (before : List UInt16) : List UInt16 → List UInt16
  | [] => []
  | port :: rest =>
    (if port ≠ 0 ∧ port ∈ before then [port] else []) ++ repetitions (before ++ [port]) rest

def portProblems (ports : List UInt16) : List Problem :=
  if ports.isEmpty then [.noListenPorts] else (repetitions [] ports).map .repeatedPort

namespace Settings

/-- `problem` if the condition fails. -/
def problemUnless (condition : Prop) [Decidable condition] (problem : Problem) : List Problem :=
  if condition then [] else [problem]

/-- The problems of the forwarder's settings. -/
def problems (s : Settings) : List Problem :=
  portProblems s.listener.ports ++
    problemUnless (s.rules.files ≠ []) .noRuleFiles ++
    problemUnless (0 < s.forwarding.sendTimeout) .zeroSendTimeout ++
    problemUnless (s.rules.watch → 0 < s.rules.pollInterval) .zeroPollInterval ++
    problemUnless (s.observability.metricsEnabled →
        (Net.SocketAddress.parse? s.observability.metricsAddress).isSome)
      (.badMetricsAddress s.observability.metricsAddress)

/-- The problems of the monitor's settings. -/
def monitorProblems (s : Settings) : List Problem := portProblems s.monitor.ports

end Settings

end Patchbay
