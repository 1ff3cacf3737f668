/-
The stop signal: a broadcast without data that holds one signal. A receiver sees what was sent
after it subscribed. One that has missed signals learns once how many, then reads the newest.

`Signals` are several independent signals, each reached through any of its handles.
-/
namespace Patchbay

/-- One subscription: the number of signals sent before the next that it will read. -/
structure Receiver where
  next : Nat
  deriving DecidableEq, Repr

/-- What a receiver finds. -/
inductive Poll where
  | empty
  | signal
  /-- So many signals were overwritten before they were read. -/
  | lagged (missed : Nat)
  deriving DecidableEq, Repr

/-- What a receiver finds when `sent` signals have been sent, and the receiver afterwards. -/
def Receiver.poll (r : Receiver) (sent : Nat) : Poll × Receiver :=
  if sent ≤ r.next then (.empty, r)
  else if sent = r.next + 1 then (.signal, ⟨sent⟩)
  else (.lagged (sent - 1 - r.next), ⟨sent - 1⟩)

/-- A signal is waiting to be read. -/
def Receiver.pending (r : Receiver) (sent : Nat) : Bool := decide (r.next < sent)

/-- A stop signal and the receivers that were made for it; a dropped one leaves its place empty. -/
structure StopSignal where
  sent : Nat := 0
  receivers : List (Option Receiver) := []
  deriving DecidableEq, Repr

namespace StopSignal

/-- The receivers that have not been dropped. -/
def receiverCount (s : StopSignal) : Nat := s.receivers.countP Option.isSome

/-- The new receiver's number, and the signal with it. -/
def subscribe (s : StopSignal) : Nat × StopSignal :=
  (s.receivers.length, { s with receivers := s.receivers ++ [some ⟨s.sent⟩] })

/-- Sends one signal; without a receiver it is lost. -/
def trigger (s : StopSignal) : StopSignal :=
  if s.receiverCount = 0 then s else { s with sent := s.sent + 1 }

/-- Drops a receiver; says whether it was still there. -/
def drop (s : StopSignal) (i : Nat) : Bool × StopSignal :=
  match s.receivers[i]? with
  | some (some _) => (true, { s with receivers := s.receivers.set i none })
  | _ => (false, s)

/-- What receiver `i` finds; `none` if it was dropped. -/
def poll (s : StopSignal) (i : Nat) : Option Poll × StopSignal :=
  match s.receivers[i]? with
  | some (some r) =>
    let (found, r) := r.poll s.sent
    (some found, { s with receivers := s.receivers.set i (some r) })
  | _ => (none, s)

/-- Receiver `i` is there and has something to read. -/
def pending (s : StopSignal) (i : Nat) : Bool :=
  match s.receivers[i]? with
  | some (some r) => r.pending s.sent
  | _ => false

end StopSignal

/-- Several signals. A handle names a signal, a receiver is named by its signal and its number
there. -/
structure Signals where
  signals : List StopSignal := [{}]
  handles : List Nat := [0]
  receivers : List (Nat × Nat) := []
  deriving DecidableEq, Repr

namespace Signals

inductive Operation where
  | clone (handle : Nat)
  | new
  | subscribe (handle : Nat)
  | trigger (handle : Nat)
  | count (handle : Nat)
  | drop (receiver : Nat)
  | poll (receiver : Nat)
  deriving DecidableEq, Repr

inductive Answer where
  | index (i : Nat)
  | done
  | count (n : Nat)
  | dropped (wasThere : Bool)
  /-- `none` if the receiver was dropped. -/
  | polled (found : Option Poll)
  deriving DecidableEq, Repr

/-- The signal that a handle reaches, with its number. -/
def reach? (s : Signals) (handle : Nat) : Option (Nat × StopSignal) := do
  let i ← s.handles[handle]?
  return (i, ← s.signals[i]?)

/-- The signal of a receiver, with its number and the receiver's number there. -/
def reachReceiver? (s : Signals) (receiver : Nat) : Option (Nat × Nat × StopSignal) := do
  let (i, k) ← s.receivers[receiver]?
  return (i, k, ← s.signals[i]?)

def replace (s : Signals) (i : Nat) (signal : StopSignal) : Signals :=
  { s with signals := s.signals.set i signal }

/-- One operation; `none` if the handle or receiver it names does not exist. -/
def perform? (s : Signals) : Operation → Option (Answer × Signals)
  | .clone handle => do
    let (i, _) ← s.reach? handle
    return (.index s.handles.length, { s with handles := s.handles ++ [i] })
  | .new =>
    some (.index s.handles.length,
      { s with signals := s.signals ++ [{}], handles := s.handles ++ [s.signals.length] })
  | .subscribe handle => do
    let (i, signal) ← s.reach? handle
    let (k, signal) := signal.subscribe
    let s := s.replace i signal
    return (.index s.receivers.length, { s with receivers := s.receivers ++ [(i, k)] })
  | .trigger handle => do
    let (i, signal) ← s.reach? handle
    return (.done, s.replace i signal.trigger)
  | .count handle => do
    let (_, signal) ← s.reach? handle
    return (.count signal.receiverCount, s)
  | .drop receiver => do
    let (i, k, signal) ← s.reachReceiver? receiver
    let (wasThere, signal) := signal.drop k
    return (.dropped wasThere, s.replace i signal)
  | .poll receiver => do
    let (i, k, signal) ← s.reachReceiver? receiver
    let (found, signal) := signal.poll k
    return (.polled found, s.replace i signal)

end Signals

end Patchbay
