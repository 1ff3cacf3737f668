/-
Listen sockets and the receive loop of each. Every datagram that decodes to a message is handed to the
handler; bundles, undecodable datagrams and receive errors are reported and passed over. The loop
ends when its stop signal can be read at a wait, or when the handler says so.

At a wait the loop looks at the stop signal first, and only if that cannot be read at what has arrived.
-/
import Patchbay.Journal
import Patchbay.Machine

namespace Patchbay

/-- A port that cannot be bound. -/
structure BindError where
  host : String
  port : UInt16
  reason : String
  deriving DecidableEq, Repr

def BindError.message (e : BindError) : String :=
  s!"failed to bind {e.host}:{e.port.toNat}: {e.reason}"

/-- The longest datagram that is read; what lies beyond is lost. -/
def datagramLimit : Nat := 1536

/-- What a receive comes to. -/
inductive Arrival where
  | datagram (peer : String) (bytes : List UInt8)
  | failure (reason : String)
  deriving DecidableEq, Repr

/-- Whether a loop goes on after a message. -/
inductive Flow where
  | goOn | stop
  deriving DecidableEq, Repr

/-- Handles one message. -/
abbrev Handler (σ : Type) := σ → Osc.Message → Flow × Journal × σ

namespace Listener

/-- Binds a listen socket; what it answers may depend on what was asked before. -/
abbrev Binder (σ : Type) := σ → Nat → String → UInt16 → Except String Net.SocketAddress × σ

/-- Binds ports in order, up to the first that cannot be bound. `place` is that of the first one. -/
def bindThrough {σ : Type} (binder : Binder σ) (host : String) (s : σ) (place : Nat) :
    List UInt16 → (Except BindError (List Net.SocketAddress) × Journal) × σ
  | [] => ((.ok [], []), s)
  | port :: rest => match binder s place host port with
    | (.error reason, s) => ((.error ⟨host, port, reason⟩, []), s)
    | (.ok address, s) =>
      let bound : Journal := [.event (.listening address)]
      match bindThrough binder host s (place + 1) rest with
      | ((.error e, more), s) => ((.error e, bound ++ more), s)
      | ((.ok addresses, more), s) => ((.ok (address :: addresses), bound ++ more), s)

/-- The listen sockets of a machine. -/
def binder (machine : Machine) : Binder Unit := fun s place host port =>
  (machine.bind place host port, s)

def bindAll (machine : Machine) (host : String) (place : Nat) (ports : List UInt16) :
    Except BindError (List Net.SocketAddress) × Journal :=
  (bindThrough (binder machine) host () place ports).1

theorem bindAll_cons_eq (machine : Machine) (host : String) (place : Nat) (port : UInt16)
    (rest : List UInt16) :
    bindAll machine host place (port :: rest) = match machine.bind place host port with
      | .error reason => (.error ⟨host, port, reason⟩, [])
      | .ok address =>
        let (result, more) := bindAll machine host (place + 1) rest
        (result.map (address :: ·), .event (.listening address) :: more) := by
  simp only [bindAll, bindThrough, binder]
  cases machine.bind place host port with
  | error reason => rfl
  | ok address =>
    dsimp only
    rcases bindThrough (binder machine) host () (place + 1) rest with ⟨⟨_ | addresses, more⟩, s⟩ <;>
      rfl

/-- What an arrival holds for the handler. -/
def messageOf? : Arrival → Option Osc.Message
  | .failure _ => none
  | .datagram _ bytes => match Osc.decode (bytes.take datagramLimit) with
    | .ok (.message m) => some m
    | _ => none

/-- Takes in one arrival on `port`. -/
def receive {σ : Type} (port : UInt16) (handler : Handler σ) (s : σ) : Arrival → Flow × Journal × σ
  | .failure reason => (.goOn, [.event (.receiveFailed port reason)], s)
  | .datagram peer bytes => match Osc.decode (bytes.take datagramLimit) with
    | .ok (.message m) =>
      let heard : Journal := [.increment (.received port), .event (.messageReceived port peer m)]
      match handler s m with
      | (.goOn, journal, s) => (.goOn, heard ++ journal, s)
      | (.stop, journal, s) => (.stop, heard ++ journal ++ [.event (.stoppedByHandler port)], s)
    | .ok (.bundle elements) =>
      (.goOn, [.increment (.bundlesDropped port), .event (.bundleDropped port peer elements)], s)
    | .error e => (.goOn, [.event (.decodeFailed port peer e)], s)

/-- One wait of the loop. If the stop signal can be read, it is, and nothing is received. -/
inductive Wait where
  | stopSignal
  | arrival (arrival : Arrival)
  deriving DecidableEq, Repr

/-- The waits that the loop gets through, one by one, and whether it goes on after the last. -/
def run {σ : Type} (port : UInt16) (handler : Handler σ) (s : σ) : List Wait → Flow × Journal × σ
  | [] => (.goOn, [], s)
  | .stopSignal :: _ => (.stop, [.event (.stopSignalReceived port)], s)
  | .arrival a :: rest => match receive port handler s a with
    | (.stop, journal, s) => (.stop, journal, s)
    | (.goOn, journal, s) =>
      let (flow, more, s) := run port handler s rest
      (flow, journal ++ more, s)

/-! ## Looks -/

/-- What happens around a loop. -/
inductive Happening where
  | arrive (arrival : Arrival)
  /-- The stop signal is sent. -/
  | signal
  /-- The last sender of the stop signal is dropped, which can be read as well. -/
  | close
  /-- The loop is at its wait and looks. -/
  | look
  deriving DecidableEq, Repr

/-- What there is to be found: whether the stop signal can be read, and what has arrived and was not
received. -/
structure Sight where
  stopped : Bool := false
  unread : List Arrival := []
  deriving DecidableEq, Repr

namespace Sight

/-- What there is to be found after one more happening. -/
def heed (s : Sight) : Happening → Sight
  | .arrive a => { s with unread := s.unread ++ [a] }
  | .signal | .close => { s with stopped := true }
  | .look => s

/-- What a look finds: the stop signal if it can be read, else the oldest arrival. A look that finds
nothing is no end of the wait. -/
def look? (s : Sight) : Option Wait :=
  if s.stopped then some .stopSignal else s.unread.head?.map .arrival

/-- What is left after the oldest arrival was received. -/
def received (s : Sight) : Sight := { s with unread := s.unread.tail }

end Sight

/-- The waits that a loop gets through from a sight on. -/
def waitsFrom (s : Sight) : List Happening → List Wait
  | [] => []
  | .look :: rest => match s.look? with
    | none => waitsFrom s rest
    | some .stopSignal => [.stopSignal]
    | some (.arrival a) => .arrival a :: waitsFrom s.received rest
  | h :: rest => waitsFrom (s.heed h) rest

/-- Only a look is a wait; what else happens can be found by later ones. -/
theorem waitsFrom_heed {h : Happening} (other : h ≠ .look) (s : Sight) (rest : List Happening) :
    waitsFrom s (h :: rest) = waitsFrom (s.heed h) rest := by
  cases h with
  | look => exact absurd rfl other
  | arrive | signal | close => rfl

/-- The waits that a loop gets through, with nothing arrived and no stop signal before. -/
def waits (happenings : List Happening) : List Wait := waitsFrom {} happenings

end Listener

end Patchbay
