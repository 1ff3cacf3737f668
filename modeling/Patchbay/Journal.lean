/-
The journal of a run: what was reported and what was counted, in order. Metrics are read off it:
a counter is the number of its increments, a gauge the value it was set to last.
-/
import Patchbay.Verbosity

namespace Patchbay

inductive Metric where
  | received (port : UInt16)
  | unmatched (port : UInt16)
  | bundlesDropped (port : UInt16)
  | forwards (target : String)
  | sendErrors (target : String)
  | reloads (success : Bool)
  | routingRules
  | routingTargets
  deriving DecidableEq, Repr

/-- A metric with its label, as in `osc_forwards_total{target=h:1}`. -/
def Metric.name : Metric → String
  | received port => labelled "osc_messages_received_total" ("port=" ++ toString port.toNat)
  | unmatched port => labelled "osc_messages_unmatched_total" ("port=" ++ toString port.toNat)
  | bundlesDropped port => labelled "osc_bundles_dropped_total" ("port=" ++ toString port.toNat)
  | forwards target => labelled "osc_forwards_total" ("target=" ++ target)
  | sendErrors target => labelled "osc_send_errors_total" ("target=" ++ target)
  | reloads true => labelled "osc_reloads_total" "result=success"
  | reloads false => labelled "osc_reloads_total" "result=failure"
  | routingRules => labelled "osc_routing_rules" ""
  | routingTargets => labelled "osc_routing_targets" ""
where
  labelled (name label : String) : String := name ++ "\x7b" ++ label ++ "\x7d"

inductive Entry where
  | event (event : Event)
  | increment (metric : Metric)
  | set (metric : Metric) (value : Nat)

abbrev Journal := List Entry

def Entry.metric? : Entry → Option Metric
  | .event _ => none
  | .increment m => some m
  | .set m _ => some m

/-- The value of `m` after one more entry. -/
def Entry.apply (m : Metric) (value : Nat) : Entry → Nat
  | .event _ => value
  | .increment n => if n = m then value + 1 else value
  | .set n v => if n = m then v else value

namespace Journal

def events (j : Journal) : List Event :=
  j.filterMap fun
    | .event e => some e
    | _ => none

/-- The events that pass the filter, in order. -/
def shown (j : Journal) (v : Verbosity) : List Event := (events j).filter v.shows

/-- The value of a metric at the end; zero if it was never touched. -/
def value (j : Journal) (m : Metric) : Nat := j.foldl (Entry.apply m) 0

/-- The metrics that were touched, each once. -/
def metrics (j : Journal) : List Metric := (j.filterMap Entry.metric?).eraseDups

/-- Every touched metric by name, with its value, sorted by name. -/
def totals (j : Journal) : List (String × Nat) :=
  ((metrics j).map fun m => (m.name, value j m)).mergeSort fun a b => decide (a.1 ≤ b.1)

end Journal

end Patchbay
