/-
What the program asks of the machine it runs on: addresses for host names, sockets, signal handlers,
a watcher, and the sending of datagrams. Every answer may be a failure with a reason.
-/
import Patchbay.Net.Address
import Patchbay.Target

namespace Patchbay

open Net

structure Machine where
  /-- All addresses of an endpoint. -/
  resolve : Endpoint → Except String (List SocketAddress)
  /-- Opens the one outbound socket of an address family: of IPv4 if the argument is true. -/
  openOutbound : Bool → Except String Unit
  /-- Binds the listen socket of the given place in the list of ports. -/
  bind : Nat → String → UInt16 → Except String SocketAddress
  installHandlers : Except String Unit := .ok ()
  /-- Watches the directories of the given files. -/
  installWatcher : List String → Except String Unit := fun _ => .ok ()

/-- What sending one datagram comes to. -/
inductive Delivery where
  | sent
  | failed (reason : String)
  | timedOut
  deriving DecidableEq, Repr

/-- Sends one datagram. -/
abbrev Wire (σ : Type) := σ → SocketAddress → List UInt8 → Delivery × σ

/-! ## A machine without a network

Its own names resolve and its sockets can be opened, but no datagram has a way out, not even to the
machine itself. The lower ports are reserved. -/

namespace Machine.Offline

def loopback : IpAddress := .v4 127 0 0 1

def hostAddress? (host : String) : Option IpAddress :=
  if host = "localhost" then some loopback else IpAddress.parseV4? host

def resolve (e : Endpoint) : Except String (List SocketAddress) :=
  match hostAddress? e.host with
  | some ip => .ok [⟨ip, e.port, 0⟩]
  | none =>
    if e.host.toList.contains '\x00' then .error "file name contained an unexpected NUL byte"
    else .error "failed to lookup address information: Temporary failure in name resolution"

/-- The addresses that the machine has. -/
def isOwn : IpAddress → Bool
  | .v4 a b c d => a = 127 || (a = 0 && b = 0 && c = 0 && d = 0)
  | .v6 _ => false

/-- The port of a socket that asks for none in particular, by the place of the socket. -/
def freePort (place : Nat) : UInt16 := UInt16.ofNat (49152 + place)

/-- Binds unless the address is `taken`. -/
def bind (taken : List SocketAddress) (place : Nat) (host : String) (port : UInt16) :
    Except String SocketAddress :=
  if 0 < port ∧ port < 1024 then .error "Permission denied (os error 13)"
  else match resolve ⟨host, port⟩ with
    | .error reason => .error reason
    | .ok [] => .error "could not resolve to any address"
    | .ok (a :: _) =>
      if !isOwn a.ip then .error "Cannot assign requested address (os error 99)"
      else if taken.contains a then .error "Address already in use (os error 98)"
      else .ok { a with port := if port = 0 then freePort place else port }

/-- No datagram gets out. -/
def wire : Wire Unit := fun s _ _ => (.failed "Network is unreachable (os error 101)", s)

end Machine.Offline

/-- The machine without a network; the `taken` addresses are in use. -/
def Machine.offline (taken : List SocketAddress) : Machine where
  resolve := Machine.Offline.resolve
  openOutbound _ := .ok ()
  bind := Machine.Offline.bind taken

end Patchbay
