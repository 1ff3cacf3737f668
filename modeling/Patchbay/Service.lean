/-
A forwarder from its start to its end, step by step, among everything that may happen around it:
rule files are written, signals are delivered, and the watcher is told of changes.

Rule files are read one by one, so a write may come between two of them. The signal handlers and
the watcher are installed after the listeners have started. From then on the loop waits, and serves
one request at a time: a stop request ends it, a hangup reloads the rules, and so does a change of
a rule file after a quiet period in which further changes are gathered. An interrupt is seen only
by a wait that had begun before it; the other requests are remembered.
-/
import Patchbay.Files
import Patchbay.Forwarder

namespace Patchbay

open Net

/-- Rule files on the way to becoming a routing: those still to be read and the texts so far. -/
structure Progress where
  left : List String
  texts : List (String × String) := []
  deriving DecidableEq, Repr

inductive Phase where
  | starting (progress : Progress)
  /-- Listening, before the signal handlers are installed. -/
  | listening
  /-- The signal handlers are installed, the watcher is not. -/
  | armed
  | waiting
  /-- In the quiet period after a change of `path`. -/
  | settling (path : String)
  /-- Taking further changes off the queue. -/
  | draining (path : String)
  | reloading (progress : Progress)
  | stopped
  | failed (error : StartError)
  deriving DecidableEq, Repr

/-- What the loop can be asked for from outside. -/
inductive Request where
  | interrupt | terminate | hangup | stop
  deriving DecidableEq, Repr

/-- The requests that the loop has not yet answered. -/
structure Inbox where
  interrupt : Bool := false
  terminate : Bool := false
  hangup : Bool := false
  stop : Bool := false
  /-- The changed files that the watcher has reported. -/
  changes : List String := []
  deriving DecidableEq, Repr

structure Service where
  settings : ForwarderSettings
  watch : Bool
  files : Files
  /-- The forwarder, once it has started. -/
  forwarder : Option Forwarder := none
  phase : Phase
  inbox : Inbox := {}
  /-- Changes on their way from the file system to the watcher. -/
  notices : List String := []
  deriving Repr

namespace Service

/-- Where the loop goes on from a wait. -/
inductive Branch where
  | stop | interrupt | terminate | hangup | change
  deriving DecidableEq, Repr

inductive Action where
  | deliver (request : Request)
  | write (edits : List Edit)
  /-- The oldest notice reaches the watcher. -/
  | report
  /-- The loop takes a branch that is ready. -/
  | choose (branch : Branch)
  /-- The loop's only next step when it is not waiting. -/
  | proceed
  deriving DecidableEq, Repr

/-- A forwarder about to start. -/
def launch (settings : ForwarderSettings) (watch : Bool) (files : Files) : Service :=
  { settings := settings, watch := watch, files := files
    phase := .starting ⟨settings.ruleFiles, []⟩ }

/-- The watcher is installed. -/
def watching (s : Service) : Bool :=
  s.watch && match s.phase with
    | .starting _ | .listening | .armed | .stopped | .failed _ => false
    | _ => true

/-- The rule file that an edit changes, if it is one. Removals are not reported. -/
def changed? (s : Service) : Edit → Option String
  | .write path _ | .seal path _ =>
    (s.settings.ruleFiles.find? fun file => Files.normalize file == Files.normalize path).map
      Files.display
  | .makeDirectory _ => none
  | .remove _ => none

/-- Whether a branch can be taken at a wait. -/
def ready (s : Service) : Branch → Bool
  | .stop => s.inbox.stop
  | .interrupt => s.inbox.interrupt
  | .terminate => s.inbox.terminate
  | .hangup => s.inbox.hangup
  | .change => !s.inbox.changes.isEmpty

/-- The loop can be asked for something. -/
def running (s : Service) : Bool :=
  match s.phase with
  | .starting _ | .listening | .stopped | .failed _ => false
  | _ => true

/-- Remembers a request. An interrupt is lost unless the loop is waiting. -/
def deliver (s : Service) (r : Request) : Service :=
  let inbox := s.inbox
  { s with inbox := match r with
    | .interrupt => { inbox with interrupt := inbox.interrupt || s.phase == .waiting }
    | .terminate => { inbox with terminate := true }
    | .hangup => { inbox with hangup := true }
    | .stop => { inbox with stop := true } }

/-- Enters the wait; an interrupt that was seen by an earlier wait is forgotten. -/
def wait (s : Service) : Service :=
  { s with phase := .waiting, inbox := { s.inbox with interrupt := false } }

def toReload (s : Service) : Phase := .reloading ⟨s.settings.ruleFiles, []⟩

/-- Takes a branch from the wait. -/
def choose (s : Service) : Branch → Service × Journal
  | .stop =>
    ({ s with phase := .stopped, inbox := { s.inbox with stop := false } },
      Forwarder.shutdown)
  | .interrupt =>
    ({ s with phase := .stopped, inbox := { s.inbox with interrupt := false } },
      .event .shutdownRequested :: Forwarder.shutdown)
  | .terminate =>
    ({ s with phase := .stopped, inbox := { s.inbox with terminate := false } },
      .event .shutdownRequested :: Forwarder.shutdown)
  | .hangup =>
    ({ s with phase := s.toReload, inbox := { s.inbox with hangup := false } },
      [.event .hangupReceived])
  | .change => match s.inbox.changes with
    | [] => (s, [])
    | path :: rest =>
      ({ s with phase := .settling path, inbox := { s.inbox with changes := rest } }, [])

/-- The next file of a load: its text is added, or the load fails. -/
def readNext (s : Service) (file : String) (p : Progress) : Except StartError Progress :=
  match s.files.read file with
  | .error e => .error (.rules (.unreadable file e.message))
  | .ok text => .ok ⟨p.left.drop 1, p.texts ++ [(file, text)]⟩

/-- Ends a reload with its result. -/
def finishReload (s : Service) (result : Except StartError Routing) (journal : Journal) :
    Service × Journal :=
  match s.forwarder with
  | none => (s.wait, journal)
  | some f =>
    let (f, more) := f.publish result
    ({ s with forwarder := some f }.wait, journal ++ more)

/-- The step that a loop which is not waiting makes by itself. -/
def proceed (machine : Machine) (s : Service) : Option (Service × Journal) :=
  match s.phase with
  | .starting ⟨file :: left, texts⟩ =>
    match s.readNext file ⟨file :: left, texts⟩ with
    | .error e => some ({ s with phase := .failed e }, [])
    | .ok progress => some ({ s with phase := .starting progress }, [])
  | .starting ⟨[], texts⟩ =>
    match Routing.ofSources machine s.settings.sendTimeout texts with
    | (.error e, journal) => some ({ s with phase := .failed e }, journal)
    | (.ok routing, journal) => match Forwarder.listen machine s.settings routing with
      | (.error e, more) => some ({ s with phase := .failed e }, journal ++ more)
      | (.ok f, more) =>
        some ({ s with forwarder := some f, phase := .listening }, journal ++ more)
  | .listening => match machine.installHandlers with
    | .error reason => some ({ s with phase := .failed (.signals reason) }, [])
    | .ok () => some ({ s with phase := .armed }, [])
  | .armed =>
    if s.watch then
      let files := s.settings.ruleFiles.map Files.display
      match machine.installWatcher files with
      | .error reason => some ({ s with phase := .failed (.watch reason) }, [])
      | .ok () => some (s.wait, [.event (.watcherStarted files)])
    else some (s.wait, [])
  | .waiting => none
  | .settling path => some ({ s with phase := .draining path }, [])
  | .draining path => match s.inbox.changes with
    | _ :: rest => some ({ s with inbox := { s.inbox with changes := rest } }, [])
    | [] => some ({ s with phase := s.toReload }, [.event (.reloadingAfterChange path)])
  | .reloading ⟨file :: left, texts⟩ =>
    match s.readNext file ⟨file :: left, texts⟩ with
    | .error e => some (s.finishReload (.error e) [])
    | .ok progress => some ({ s with phase := .reloading progress }, [])
  | .reloading ⟨[], texts⟩ =>
    let (result, journal) := Routing.ofSources machine s.settings.sendTimeout texts
    some (s.finishReload result journal)
  | .stopped => none
  | .failed _ => none

/-- One step; `none` if it is not possible now. -/
def step (machine : Machine) (s : Service) : Action → Option (Service × Journal)
  | .deliver r => if s.running then some (s.deliver r, []) else none
  | .write edits =>
    let notices := if s.watching then edits.filterMap s.changed? else []
    some ({ s with files := s.files.applyAll edits, notices := s.notices ++ notices }, [])
  | .report => match s.notices with
    | [] => none
    | path :: rest =>
      some ({ s with notices := rest, inbox.changes := s.inbox.changes ++ [path] },
        [.event (.changeDetected path)])
  | .choose b => if s.phase = .waiting ∧ s.ready b then some (s.choose b) else none
  | .proceed => s.proceed machine

/-! ## Running by itself -/

/-- A step that needs nobody from outside: a notice arrives, or the loop goes on. -/
def next? (s : Service) : Option Action :=
  if !s.notices.isEmpty then some .report
  else match s.phase with
    | .stopped | .failed _ => none
    | .waiting => ([Branch.stop, .interrupt, .terminate, .hangup, .change].find? s.ready).map .choose
    | _ => some .proceed

/-- Runs until only something from outside can happen, for at most so many steps. -/
def settle (machine : Machine) : Nat → Service → Service × Journal
  | 0, s => (s, [])
  | fuel + 1, s => match s.next?.bind (s.step machine) with
    | none => (s, [])
    | some (s, journal) =>
      let (s, more) := settle machine fuel s
      (s, journal ++ more)

/-- More steps than a service makes by itself before it waits for something from outside: every
notice and every request leads to one load of the files at most. -/
def settleBound (s : Service) : Nat :=
  (s.notices.length + s.inbox.changes.length + 5) * (s.settings.ruleFiles.length + 8)

def run (machine : Machine) (s : Service) : Service × Journal :=
  settle machine s.settleBound s

end Service

end Patchbay
