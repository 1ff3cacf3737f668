/-
The monitor: one echo loop for every port, and one stop signal for all of them. Its start goes
through the bound ports one by one: it takes a receiver of the stop signal and then starts the
loop, while the loops that were started before already handle messages.
-/
import Patchbay.Echo
import Patchbay.StopSignal

namespace Patchbay

/-- What an echo loop is doing. -/
inductive EchoPhase where
  /-- It waits for the stop signal or an arrival. -/
  | waiting
  | handling (arrival : Arrival)
  | ended
  deriving DecidableEq, Repr

/-- One echo loop. -/
structure EchoLoop where
  port : UInt16
  /-- The number of its receiver of the stop signal. -/
  receiver : Nat
  phase : EchoPhase := .waiting
  written : String := ""
  deriving DecidableEq, Repr

def EchoLoop.running (l : EchoLoop) : Bool := match l.phase with
  | .ended => false
  | _ => true

structure Monitor where
  /-- The ports whose loops have not been started. -/
  unstarted : List UInt16
  /-- The receiver that was taken for the next loop. -/
  reserved : Option Nat := none
  signal : StopSignal := {}
  loops : List EchoLoop := []
  deriving DecidableEq, Repr

namespace Monitor

/-- A monitor on bound ports, before its first loop is started. -/
def ofPorts (ports : List UInt16) : Monitor := { unstarted := ports }

inductive Action where
  /-- The start takes a receiver for the next loop. -/
  | subscribe
  /-- The start starts the loop that it took a receiver for. -/
  | spawn
  /-- A loop that waits finds no stop signal and receives what arrived at its port. -/
  | receive (loop : Nat) (arrival : Arrival)
  /-- A loop handles what it received. -/
  | handle (loop : Nat)
  /-- A loop that waits reads the stop signal and ends. -/
  | obey (loop : Nat)
  /-- Somebody else triggers the stop signal; the start hands it out when it is done. -/
  | trigger
  deriving DecidableEq, Repr

/-- Everything is started. -/
def started (m : Monitor) : Bool := m.unstarted.isEmpty

def runningCount (m : Monitor) : Nat := m.loops.countP (·.running)

def subscribeNext (m : Monitor) : Option Monitor :=
  if m.reserved.isNone && !m.started then
    let (receiver, signal) := m.signal.subscribe
    some { m with reserved := some receiver, signal := signal }
  else none

def spawnNext (m : Monitor) : Option Monitor :=
  match m.reserved, m.unstarted with
  | some receiver, port :: rest =>
    some { m with
      unstarted := rest, reserved := none, loops := m.loops ++ [⟨port, receiver, .waiting, ""⟩] }
  | _, _ => none

/-- A loop ends and drops its receiver. -/
def finish (m : Monitor) (i : Nat) (l : EchoLoop) : Monitor :=
  { m with
    loops := m.loops.set i { l with phase := .ended }
    signal := (m.signal.drop l.receiver).2 }

def receiveOn (m : Monitor) (i : Nat) (a : Arrival) : Option Monitor := do
  let l ← m.loops[i]?
  if l.phase = .waiting ∧ m.signal.pending l.receiver = false then
    return { m with loops := m.loops.set i { l with phase := .handling a } }
  else none

/-- The exit command triggers the stop signal before the loop ends. -/
def handleOn (m : Monitor) (i : Nat) : Option (Monitor × Journal) := do
  let l ← m.loops[i]?
  match l.phase with
  | .handling a => match Listener.receive l.port (Echo.handler l.port none) l.written a with
    | (.goOn, journal, written) =>
      let l := { l with phase := .waiting, written := written }
      return ({ m with loops := m.loops.set i l }, journal)
    | (.stop, journal, written) =>
      let m := { m with signal := m.signal.trigger }
      return (m.finish i { l with written := written }, journal)
  | _ => none

def obeyOn (m : Monitor) (i : Nat) : Option (Monitor × Journal) := do
  let l ← m.loops[i]?
  if l.phase = .waiting ∧ m.signal.pending l.receiver = true then
    return (m.finish i l, [.event (.stopSignalReceived l.port)])
  else none

/-- One step; `none` if it is not possible now. -/
def step (m : Monitor) : Action → Option (Monitor × Journal)
  | .subscribe => m.subscribeNext.map (·, [])
  | .spawn => m.spawnNext.map (·, [])
  | .receive i a => (m.receiveOn i a).map (·, [])
  | .handle i => m.handleOn i
  | .obey i => m.obeyOn i
  | .trigger => if m.started then some ({ m with signal := m.signal.trigger }, []) else none

/-- What the loops have written since it was last shown, and the monitor when it is. -/
def flush (m : Monitor) : String × Monitor :=
  (String.join (m.loops.map (·.written)),
    { m with loops := m.loops.map fun l => { l with written := "" } })

/-- A whole run; `none` if a step is not possible. -/
def run (m : Monitor) : List Action → Option (Monitor × Journal)
  | [] => some (m, [])
  | a :: rest => do
    let (m, journal) ← m.step a
    let (m, more) ← m.run rest
    return (m, journal ++ more)

/-- Starts loop after loop with nothing in between. -/
def startAll (m : Monitor) : Monitor :=
  ((m.run (m.unstarted.flatMap fun _ => [.subscribe, .spawn])).map (·.1)).getD m

/-- The actions in order; those that are not possible are left out. -/
def perform (m : Monitor) : List Action → Monitor
  | [] => m
  | a :: rest => perform (((m.step a).map (·.1)).getD m) rest

/-- Lets every loop handle what it received and then end if it can read the stop signal. -/
def settle (m : Monitor) : Monitor :=
  let loops := List.range m.loops.length
  m.perform (loops.map .handle ++ loops.map .obey)

end Monitor

end Patchbay
