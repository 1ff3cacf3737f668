/-
Listeners that share one routing while it is replaced. Each lane works on its own queue: it takes a
message, loads the routing that is published at that moment, and makes the planned sends one by one
through the clients of that routing. Reloads may come between any two of these steps.
-/
import Patchbay.Forwarder

namespace Patchbay

/-- What a lane is doing. -/
inductive Work where
  | idle
  | taken (message : Osc.Message)
  /-- `rest` is still to be sent under the routing that was loaded for the message. -/
  | sending (message : Osc.Message) (routing : Routing) (rest : List Forward)
  deriving Repr

structure Lane where
  queue : List Osc.Message
  work : Work := .idle
  deriving Repr

namespace Lane

inductive Step where
  /-- Takes the next message of the queue. -/
  | take
  /-- Loads the published routing for the message it took. -/
  | load
  /-- Makes the next send, or finds that none is left. -/
  | send
  deriving Repr

/-- What a step of a lane shows. -/
inductive Mark where
  | taken (message : Osc.Message)
  | loaded (message : Osc.Message) (routing : Routing)
  /-- A send through the clients of `pool`. -/
  | sent (message : Osc.Message) (pool : Pool) (forward : Forward)
  | finished (message : Osc.Message)

variable {σ : Type}

/-- One step of a lane while `published` is active; `none` if it is not possible now. -/
def step (wire : Wire σ) (published : Routing) (s : σ) (lane : Lane) :
    Step → Option (Lane × σ × Mark)
  | .take => match lane.work, lane.queue with
    | .idle, m :: queue => some (⟨queue, .taken m⟩, s, .taken m)
    | _, _ => none
  | .load => match lane.work with
    | .taken m =>
      some ({ lane with work := .sending m published (published.table.plan m.address) }, s,
        .loaded m published)
    | _ => none
  | .send => match lane.work with
    | .sending m loaded (f :: rest) =>
      some ({ lane with work := .sending m loaded rest },
        (loaded.pool.sink wire s f.target f.path m).2,
        .sent m loaded.pool f)
    | .sending m _ [] => some ({ lane with work := .idle }, s, .finished m)
    | _ => none

end Lane

structure Relay (σ : Type) where
  routing : Routing
  lanes : List Lane
  /-- The state of the wire that all clients send on. -/
  network : σ

namespace Relay

variable {σ : Type}

/-- Lanes that have done nothing yet. -/
def ofQueues (routing : Routing) (queues : List (List Osc.Message)) (s : σ) : Relay σ :=
  ⟨routing, queues.map fun queue => { queue }, s⟩

inductive Action where
  | lane (i : Nat) (step : Lane.Step)
  /-- A reload attempt with its result. -/
  | reload (result : Except StartError Routing)

/-- What a step shows. -/
inductive Mark where
  | lane (i : Nat) (mark : Lane.Mark)
  | published (routing : Routing)
  | kept (error : StartError)

/-- One step; `none` if it is not possible now. -/
def step (wire : Wire σ) (r : Relay σ) : Action → Option (Relay σ × Mark)
  | .lane i a => do
    let lane ← r.lanes[i]?
    let (lane, s, mark) ← lane.step wire r.routing r.network a
    return ({ r with lanes := r.lanes.set i lane, network := s }, .lane i mark)
  | .reload (.ok routing) => some ({ r with routing := routing }, .published routing)
  | .reload (.error e) => some (r, .kept e)

/-- A whole run with its marks; `none` if a step is not possible. -/
def run (wire : Wire σ) (r : Relay σ) : List Action → Option (Relay σ × List Mark)
  | [] => some (r, [])
  | a :: rest => do
    let (r, mark) ← r.step wire a
    let (r, marks) ← r.run wire rest
    return (r, mark :: marks)

end Relay

end Patchbay
