/-
Dispatching a message: its plan is carried out send by send. A failed send is counted and reported
and never keeps a later one from being tried.

A sink performs the sends; it has a state of its own, so that a send may depend on those before it.
-/
import Patchbay.Journal

namespace Patchbay

/-- Why one send failed. -/
inductive SendError where
  | noClient (endpoint : Endpoint)
  | notEncodable (endpoint : Endpoint) (reason : String)
  | failed (endpoint : Endpoint) (reason : String)
  | timedOut (endpoint : Endpoint) (milliseconds : Nat)
  deriving DecidableEq, Repr

/-- Milliseconds; from one second on seconds, with a fraction if it is not zero. No time at all is
written in the smallest unit. -/
def durationText (milliseconds : Nat) : String :=
  if milliseconds = 0 then "0ns"
  else if milliseconds < 1000 then toString milliseconds ++ "ms"
  else
    let fraction := milliseconds % 1000
    let padded := (toString (1000 + fraction)).toList.drop 1
    let digits := (padded.reverse.dropWhile (· == '0')).reverse
    let point := if digits.isEmpty then "" else "." ++ String.ofList digits
    toString (milliseconds / 1000) ++ point ++ "s"

def SendError.message : SendError → String
  | .noClient endpoint => "no client for " ++ endpoint.text
  | .notEncodable endpoint reason => s!"failed to encode message for {endpoint.text}: {reason}"
  | .failed endpoint reason => s!"send to {endpoint.text} failed: {reason}"
  | .timedOut endpoint milliseconds =>
    s!"send to {endpoint.text} timed out after {durationText milliseconds}"

/-- Sends the message to the target under the path. -/
abbrev Sink (σ : Type) := σ → Target → String → Osc.Message → Except SendError Unit × σ

structure Report where
  matched : Nat
  forwarded : Nat
  failed : Nat
  deriving DecidableEq, Repr

inductive Activity where
  | idle | dispatching
  deriving DecidableEq, Repr

def Activity.name : Activity → String
  | .idle => "Idle"
  | .dispatching => "Dispatching"

/-- The dispatcher of the listener on `port`. -/
structure Dispatcher where
  port : UInt16
  activity : Activity := .idle
  deriving DecidableEq, Repr

namespace Dispatcher

/-- What one send leaves in the journal. -/
def sendEntries (d : Dispatcher) (m : Osc.Message) (f : Forward) :
    Except SendError Unit → Journal
  | .ok () =>
    [.increment (.forwards f.target.text),
      .event (.forwarded d.port f.target f.path m.arguments)]
  | .error e =>
    [.increment (.sendErrors f.target.text),
      .event (.forwardFailed d.port f.target f.path e.message)]

/-- Performs the sends in order; gives the outcome of each and the journal. -/
def sendAll {σ : Type} (d : Dispatcher) (sink : Sink σ) (m : Osc.Message) (s : σ) :
    List Forward → List (Except SendError Unit) × Journal × σ
  | [] => ([], [], s)
  | f :: rest =>
    let (outcome, s) := sink s f.target f.path m
    let (outcomes, journal, s) := d.sendAll sink m s rest
    (outcome :: outcomes, d.sendEntries m f outcome ++ journal, s)

def succeeded : Except SendError Unit → Bool
  | .ok () => true
  | .error _ => false

/-- What a message that no rule matches leaves in the journal. -/
def unmatchedEntries (d : Dispatcher) (m : Osc.Message) : Journal :=
  [.increment (.unmatched d.port), .event (.unmatched d.port m.address)]

/-- The outcome of dispatching one message. -/
structure Outcome (σ : Type) where
  dispatcher : Dispatcher
  report : Report
  journal : Journal
  sink : σ

/-- Forwards `m` to every target of every matching rule. -/
def dispatch {σ : Type} (d : Dispatcher) (t : Table) (sink : Sink σ) (s : σ) (m : Osc.Message) :
    Outcome σ :=
  let busy : Dispatcher := { d with activity := .dispatching }
  let plan := t.plan m.address
  let (outcomes, journal, s) := busy.sendAll sink m s plan
  { dispatcher := { busy with activity := .idle }
    report :=
      { matched := matchedRules plan
        forwarded := outcomes.countP succeeded
        failed := outcomes.countP (!succeeded ·) }
    journal := (if plan.isEmpty then busy.unmatchedEntries m else []) ++ journal
    sink := s }

end Dispatcher

end Patchbay
