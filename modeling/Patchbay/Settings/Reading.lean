/-
Settings from the text of a TOML file. What the file does not mention keeps its default, and what
it mentions besides is passed over. A section is a table, or an array of its fields in their order.
-/
import Patchbay.Settings.Basic
import Patchbay.Toml.Document

namespace Patchbay.Settings

open Toml (Value)

/-! ## Values of a type -/

def string? : Value → Option String
  | .string text => some text
  | _ => none

def bool? : Value → Option Bool
  | .boolean b => some b
  | _ => none

def nat? : Value → Option Nat
  | .integer n => if 0 ≤ n then some n.toNat else none
  | _ => none

def port? (v : Value) : Option UInt16 := do
  let n ← nat? v
  if n < 65536 then return UInt16.ofNat n else none

def list? {α : Type} (item? : Value → Option α) : Value → Option (List α)
  | .array items => items.mapM item?
  | _ => none

/-! ## Sections -/

/-- A field of a section: its key, and the section with the field read from a value. -/
structure Field (α : Type) where
  key : String
  read : α → Value → Option α

/-- A field of a type that is read by `value?`. -/
def field {α β : Type} (key : String) (value? : Value → Option β) (set : α → β → α) : Field α :=
  ⟨key, fun s v => (value? v).map (set s)⟩

/-- Reads the fields that the section mentions. -/
def readSection? {α : Type} (fields : List (Field α)) (s : α) : Value → Option α
  | .table entries => fields.foldlM (fun s f => match entries.lookup f.key with
      | none => some s
      | some v => f.read s v) s
  | .array items => (fields.zip items).foldlM (fun s p => p.1.read s p.2) s
  | .datetime _ => some s
  | _ => none

def listenerFields : List (Field ListenerSettings) :=
  [field "bind_host" string? fun s v => { s with bindHost := v },
    field "ports" (list? port?) fun s v => { s with ports := v }]

def ruleFields : List (Field RuleSettings) :=
  [field "files" (list? string?) fun s v => { s with files := v },
    field "watch" bool? fun s v => { s with watch := v },
    field "poll_interval_secs" nat? fun s v => { s with pollInterval := v }]

def forwardingFields : List (Field ForwardingSettings) :=
  [field "send_timeout_ms" nat? fun s v => { s with sendTimeout := v }]

def observabilityFields : List (Field ObservabilitySettings) :=
  [field "log_level" string? fun s v => { s with logLevel := v },
    field "verbose_incoming" bool? fun s v => { s with verboseIncoming := v },
    field "verbose_outgoing" bool? fun s v => { s with verboseOutgoing := v },
    field "verbose_rules" bool? fun s v => { s with verboseRules := v },
    field "verbose_listen" bool? fun s v => { s with verboseListen := v },
    field "metrics_enabled" bool? fun s v => { s with metricsEnabled := v },
    field "metrics_address" string? fun s v => { s with metricsAddress := v }]

def monitorFields : List (Field MonitorSettings) :=
  [field "bind_host" string? fun s v => { s with bindHost := v },
    field "ports" (list? port?) fun s v => { s with ports := v },
    field "motd" string? fun s v => { s with motd := v },
    field "verbose" bool? fun s v => { s with verbose := v }]

def settingsFields : List (Field Settings) :=
  [field "listener" (readSection? listenerFields {}) fun s v => { s with listener := v },
    field "rules" (readSection? ruleFields {}) fun s v => { s with rules := v },
    field "forwarding" (readSection? forwardingFields {}) fun s v => { s with forwarding := v },
    field "observability" (readSection? observabilityFields {}) fun s v =>
      { s with observability := v },
    field "monitor" (readSection? monitorFields {}) fun s v => { s with monitor := v }]

/-- The settings that a text writes. -/
def parse? (text : String) : Option Settings := do
  readSection? settingsFields {} (.table (← Toml.parse? text))

end Patchbay.Settings
