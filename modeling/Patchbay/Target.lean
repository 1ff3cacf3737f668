/-
Forwarding targets: a host, a port, and a path that replaces the message's own. A rule writes one
as `host:port` or `host:port/path`; hosts are compared as they are written.
-/
import Patchbay.Text.Blank
import Patchbay.Text.Number

namespace Patchbay

/-- Where datagrams are sent to. -/
structure Endpoint where
  host : String
  port : UInt16
  deriving DecidableEq, Repr

def Endpoint.text (e : Endpoint) : String := e.host ++ ":" ++ toString e.port.toNat

structure Target where
  host : String
  port : UInt16
  /-- The path that every message to this target is sent with, if there is one. -/
  replacement : Option String
  deriving DecidableEq, Repr

namespace Target

def endpoint (t : Target) : Endpoint := ⟨t.host, t.port⟩

/-- The target as a rule writes it. -/
def text (t : Target) : String := t.endpoint.text ++ t.replacement.getD ""

inductive ParseError where
  | missingPort
  | emptyHost
  | invalidPort (text : String)
  deriving DecidableEq, Repr

def ParseError.message : ParseError → String
  | .missingPort => "missing `:` between host and port"
  | .emptyHost => "empty host"
  | .invalidPort text => s!"invalid port `{text}` (expected 1-65535)"

/-- What stands after the host: the digits up to the first slash, and the path from that slash on. -/
def splitPort (rest : List Char) : List Char × Option String :=
  match Text.cut? '/' rest with
  | some (digits, path) => (digits, some (String.ofList ('/' :: path)))
  | none => (rest, none)

/-- Reads `host:port` or `host:port/path`. The host ends at the first colon; port 0 is refused. -/
def parse (token : String) : Except ParseError Target :=
  match Text.cut? ':' token.toList with
  | none => .error .missingPort
  | some (host, rest) =>
    if host.isEmpty then .error .emptyHost
    else
      let (digits, replacement) := splitPort rest
      match Text.portOf? digits with
      | some port =>
        if port = 0 then .error (.invalidPort (String.ofList digits))
        else .ok ⟨String.ofList host, port, replacement⟩
      | none => .error (.invalidPort (String.ofList digits))

end Target

end Patchbay
