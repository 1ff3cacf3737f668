/-
Outbound clients: one for every endpoint of a registry, resolved when the rules are loaded. All
endpoints of one address family share a socket.
-/
import Patchbay.Dispatch
import Patchbay.Machine

namespace Patchbay

open Net

/-- Why the clients of a registry cannot be built. -/
inductive ClientError where
  | unresolved (endpoint : Endpoint) (reason : String)
  | noAddress (endpoint : Endpoint)
  | unbound (v4 : Bool) (reason : String)
  deriving DecidableEq, Repr

def ClientError.message : ClientError → String
  | .unresolved endpoint reason => s!"cannot resolve target {endpoint.text}: {reason}"
  | .noAddress endpoint => s!"target {endpoint.text} resolved to no address"
  | .unbound v4 reason =>
    let address := if v4 then "0.0.0.0:0" else "[::]:0"
    s!"failed to bind outbound socket {address}: {reason}"

structure Client where
  endpoint : Endpoint
  address : SocketAddress
  deriving DecidableEq, Repr

structure Pool where
  clients : List Client := []
  /-- The bound on one send, in milliseconds. -/
  timeout : Nat := 0
  deriving DecidableEq, Repr

namespace Pool

/-- The first IPv4 address, else the first address: receivers often listen on IPv4 alone. -/
def preferred? (addresses : List SocketAddress) : Option SocketAddress :=
  (addresses.find? (·.ip.isV4)).or addresses.head?

/-- The address that datagrams to the endpoint go to. -/
def resolve (machine : Machine) (e : Endpoint) :
    Except ClientError SocketAddress × Journal :=
  match machine.resolve e with
  | .error reason => (.error (.unresolved e reason), [])
  | .ok addresses => match preferred? addresses with
    | none => (.error (.noAddress e), [])
    | some chosen =>
      (.ok chosen,
        if 1 < addresses.length then [.event (.severalAddresses e addresses chosen)] else [])

/-- Opens the socket of an address family; what it answers may depend on what was asked before. -/
abbrev Opener (σ : Type) := σ → Bool → Except String Unit × σ

/-- The clients of endpoints in order, up to the first that cannot be had, with sockets from an
opener. `opened` are the address families that have a socket. -/
def connectThrough {σ : Type} (machine : Machine) (opener : Opener σ) (s : σ) (opened : List Bool) :
    List Endpoint → (Except ClientError (List Client) × Journal) × σ
  | [] => ((.ok [], []), s)
  | e :: rest => match resolve machine e with
    | (.error fault, journal) => ((.error fault, journal), s)
    | (.ok address, journal) =>
      let v4 := address.ip.isV4
      match if opened.contains v4 then (.ok (), s) else opener s v4 with
      | (.error reason, s) => ((.error (.unbound v4 reason), journal), s)
      | (.ok (), s) =>
        let ready : Journal := journal ++ [.event (.clientReady e address)]
        match connectThrough machine opener s (v4 :: opened) rest with
        | ((.error fault, more), s) => ((.error fault, ready ++ more), s)
        | ((.ok clients, more), s) => ((.ok (⟨e, address⟩ :: clients), ready ++ more), s)

/-- The sockets of a machine. -/
def opener (machine : Machine) : Opener Unit := fun s v4 => (machine.openOutbound v4, s)

def connect (machine : Machine) (opened : List Bool) (endpoints : List Endpoint) :
    Except ClientError (List Client) × Journal :=
  (connectThrough machine (opener machine) () opened endpoints).1

theorem connect_cons_eq (machine : Machine) (opened : List Bool) (e : Endpoint) (rest : List Endpoint) :
    connect machine opened (e :: rest) = match resolve machine e with
      | (.error fault, journal) => (.error fault, journal)
      | (.ok address, journal) =>
        let v4 := address.ip.isV4
        match if opened.contains v4 then .ok () else machine.openOutbound v4 with
        | .error reason => (.error (.unbound v4 reason), journal)
        | .ok () =>
          let (result, more) := connect machine (v4 :: opened) rest
          (result.map (⟨e, address⟩ :: ·), journal ++ [.event (.clientReady e address)] ++ more) := by
  simp only [connect, connectThrough]
  rcases resolve machine e with ⟨fault | address, journal⟩
  · rfl
  · dsimp only
    by_cases there : opened.contains address.ip.isV4 = true
    · rw [if_pos there, if_pos there]
      dsimp only
      rcases connectThrough machine (opener machine) () (address.ip.isV4 :: opened) rest with
        ⟨⟨_ | clients, more⟩, s⟩ <;> rfl
    · rw [if_neg there, if_neg there, opener]
      cases machine.openOutbound address.ip.isV4 with
      | error reason => rfl
      | ok _ =>
        dsimp only
        rcases connectThrough machine (opener machine) () (address.ip.isV4 :: opened) rest with
          ⟨⟨_ | clients, more⟩, s⟩ <;> rfl

/-- A client for every endpoint of the registry. -/
def build (machine : Machine) (timeout : Nat) (registry : Registry) :
    Except ClientError Pool × Journal :=
  match connect machine [] registry.endpoints with
  | (.error fault, journal) => (.error fault, journal)
  | (.ok clients, journal) => (.ok ⟨clients, timeout⟩, journal)

def client? (p : Pool) (e : Endpoint) : Option Client := p.clients.find? (·.endpoint == e)

/-- The client of an endpoint, or the error of a send to it. -/
def lookup (p : Pool) (e : Endpoint) : Except SendError Client :=
  match p.client? e with
  | some c => .ok c
  | none => .error (.noClient e)

/-- Sends through the client of the target's endpoint. -/
def sink {σ : Type} (p : Pool) (wire : Wire σ) : Sink σ := fun s target path m =>
  match p.lookup target.endpoint with
  | .error e => (.error e, s)
  | .ok client => match wire s client.address (m.encodeAs path) with
    | (.sent, s) => (.ok (), s)
    | (.failed reason, s) => (.error (.failed client.endpoint reason), s)
    | (.timedOut, s) => (.error (.timedOut client.endpoint p.timeout), s)

end Pool

end Patchbay
