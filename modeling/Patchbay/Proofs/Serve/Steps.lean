/-
What one step of a service can do, and runs of steps. A loop that has stopped makes no further step,
and a wait is left only by a branch that is taken.
-/
import Patchbay.Service

namespace Patchbay

namespace Service

variable {machine : Machine}

/-! ## One step -/

/-- The branches that end the loop. -/
def Branch.ends : Branch → Bool
  | .stop | .interrupt | .terminate => true
  | .hangup | .change => false

/-- What one step can do. -/
inductive Steps (machine : Machine) (s : Service) : Action → Service → Journal → Prop where
  | deliver (r : Request) (running : s.running = true) : Steps machine s (.deliver r) (s.deliver r) []
  | write (edits : List Edit) :
      Steps machine s (.write edits)
        { s with
          files := s.files.applyAll edits
          notices := s.notices ++ if s.watching then edits.filterMap s.changed? else [] } []
  | report {path : String} {rest : List String} (sent : s.notices = path :: rest) :
      Steps machine s .report
        { s with notices := rest, inbox.changes := s.inbox.changes ++ [path] }
        [.event (.changeDetected path)]
  | leave {b : Branch} (waits : s.phase = .waiting) (ready : s.ready b = true)
      (ends : b.ends = true) : Steps machine s (.choose b) (s.choose b).1 (s.choose b).2
  | hangup (waits : s.phase = .waiting) (asked : s.inbox.hangup = true) :
      Steps machine s (.choose .hangup)
        { s with phase := s.toReload, inbox := { s.inbox with hangup := false } }
        [.event .hangupReceived]
  | change {path : String} {rest : List String} (waits : s.phase = .waiting)
      (queued : s.inbox.changes = path :: rest) :
      Steps machine s (.choose .change)
        { s with phase := .settling path, inbox := { s.inbox with changes := rest } } []
  | readFirst {file text : String} {left : List String} {texts : List (String × String)}
      (begins : s.phase = .starting ⟨file :: left, texts⟩) (there : s.files.read file = .ok text) :
      Steps machine s .proceed { s with phase := .starting ⟨left, texts ++ [(file, text)]⟩ } []
  | listen {texts : List (String × String)} {routing : Routing} {f : Forwarder}
      {journal more : Journal} (begins : s.phase = .starting ⟨[], texts⟩)
      (loaded : Routing.ofSources machine s.settings.sendTimeout texts = (.ok routing, journal))
      (bound : Forwarder.listen machine s.settings routing = (.ok f, more)) :
      Steps machine s .proceed { s with forwarder := some f, phase := .listening } (journal ++ more)
  | arm (listens : s.phase = .listening) (installed : machine.installHandlers = .ok ()) :
      Steps machine s .proceed { s with phase := .armed } []
  | enter {journal : Journal} (armed : s.phase = .armed)
      (watched : s.watch = true →
        machine.installWatcher (s.settings.ruleFiles.map Files.display) = .ok ()) :
      Steps machine s .proceed s.wait journal
  | fail {e : StartError} {journal : Journal}
      (early : s.running = false ∨ s.phase = .armed)
      (fails : s.proceed machine = some ({ s with phase := .failed e }, journal)) :
      Steps machine s .proceed { s with phase := .failed e } journal
  | settle {path : String} (settles : s.phase = .settling path) :
      Steps machine s .proceed { s with phase := .draining path } []
  | drain {path first : String} {rest : List String} (drains : s.phase = .draining path)
      (queued : s.inbox.changes = first :: rest) :
      Steps machine s .proceed { s with inbox := { s.inbox with changes := rest } } []
  | drained {path : String} (drains : s.phase = .draining path) (empty : s.inbox.changes = []) :
      Steps machine s .proceed { s with phase := s.toReload } [.event (.reloadingAfterChange path)]
  | readAgain {file text : String} {left : List String} {texts : List (String × String)}
      (reloads : s.phase = .reloading ⟨file :: left, texts⟩)
      (there : s.files.read file = .ok text) :
      Steps machine s .proceed { s with phase := .reloading ⟨left, texts ++ [(file, text)]⟩ } []
  | giveUp {file : String} {left : List String} {texts : List (String × String)} {e : FileError}
      (reloads : s.phase = .reloading ⟨file :: left, texts⟩)
      (gone : s.files.read file = .error e) :
      Steps machine s .proceed
        (s.finishReload (.error (.rules (.unreadable file e.message))) []).1
        (s.finishReload (.error (.rules (.unreadable file e.message))) []).2
  | finish {texts : List (String × String)} {result : Except StartError Routing}
      {journal : Journal} (reloads : s.phase = .reloading ⟨[], texts⟩)
      (loaded : Routing.ofSources machine s.settings.sendTimeout texts = (result, journal)) :
      Steps machine s .proceed (s.finishReload result journal).1 (s.finishReload result journal).2

theorem steps_of_choose {s after : Service} {b : Branch} {journal : Journal}
    (h : s.step machine (.choose b) = some (after, journal)) :
    Steps machine s (.choose b) after journal := by
  simp only [step, Option.ite_none_right_eq_some, Option.some.injEq] at h
  obtain ⟨⟨waits, ready⟩, heq⟩ := h
  have leaves (ends : b.ends = true) : Steps machine s (.choose b) after journal := by
    have step : Steps machine s (.choose b) (s.choose b).1 (s.choose b).2 := .leave waits ready ends
    rwa [heq] at step
  cases b with
  | stop | interrupt | terminate => exact leaves rfl
  | hangup =>
    cases heq
    exact .hangup waits ready
  | change =>
    cases hq : s.inbox.changes with
    | nil => simp [Service.ready, hq] at ready
    | cons path rest =>
      simp only [choose, hq] at heq
      cases heq
      exact .change waits hq

theorem steps_of_proceed {s after : Service} {journal : Journal}
    (h : s.proceed machine = some (after, journal)) : Steps machine s .proceed after journal := by
  have fails (early : s.running = false ∨ s.phase = .armed) {e : StartError}
      (heq : { s with phase := .failed e } = after) : Steps machine s .proceed after journal := by
    subst heq
    exact .fail early h
  unfold proceed at h
  split at h
  · rename_i file left texts begins
    cases hr : s.files.read file with
    | error e =>
      simp only [readNext, hr] at h
      exact fails (.inl (by simp [running, begins])) (congrArg Prod.fst (Option.some.inj h))
    | ok text =>
      simp only [readNext, hr] at h
      cases h
      exact .readFirst begins hr
  · rename_i texts begins
    have early : s.running = false ∨ s.phase = .armed := .inl (by simp [running, begins])
    split at h
    · exact fails early (congrArg Prod.fst (Option.some.inj h))
    · rename_i routing loading loaded
      split at h
      · exact fails early (congrArg Prod.fst (Option.some.inj h))
      · rename_i f binding bound
        cases h
        exact .listen begins loaded bound
  · rename_i listens
    split at h
    · exact fails (.inl (by simp [running, listens])) (congrArg Prod.fst (Option.some.inj h))
    · rename_i installed
      cases h
      exact .arm listens installed
  · rename_i armed
    split at h
    · dsimp only at h
      split at h
      · exact fails (.inr armed) (congrArg Prod.fst (Option.some.inj h))
      · rename_i installed
        cases h
        exact .enter armed fun _ => installed
    · rename_i unwatched
      cases h
      exact .enter armed fun watched => absurd watched unwatched
  · cases h
  · rename_i path settles
    cases h
    exact .settle settles
  · rename_i path drains
    split at h
    · rename_i queued
      cases h
      exact .drain drains queued
    · rename_i empty
      cases h
      exact .drained drains empty
  · rename_i file left texts reloads
    cases hr : s.files.read file with
    | error e =>
      simp only [readNext, hr, Option.some.injEq] at h
      have step : Steps machine s .proceed _ _ := .giveUp reloads hr
      rwa [h] at step
    | ok text =>
      simp only [readNext, hr] at h
      cases h
      exact .readAgain reloads hr
  · rename_i texts reloads
    rcases loaded : Routing.ofSources machine s.settings.sendTimeout texts with ⟨result, built⟩
    simp only [loaded, Option.some.injEq] at h
    have step := Steps.finish reloads loaded
    rwa [h] at step
  · cases h
  · cases h

theorem steps_of_step {s after : Service} {a : Action} {journal : Journal}
    (h : s.step machine a = some (after, journal)) : Steps machine s a after journal := by
  cases a with
  | deliver r =>
    simp only [step, Option.ite_none_right_eq_some, Option.some.injEq] at h
    obtain ⟨running, heq⟩ := h
    cases heq
    exact .deliver r running
  | write edits =>
    simp only [step] at h
    cases h
    exact .write edits
  | report =>
    simp only [step] at h
    split at h
    · cases h
    · rename_i sent
      cases h
      exact .report sent
  | choose b => exact steps_of_choose h
  | proceed => exact steps_of_proceed h

/-! ## Runs -/

/-- The state after some actions and what was recorded; `none` if one of them is not possible. -/
def perform (machine : Machine) (s : Service) : List Action → Option (Service × Journal)
  | [] => some (s, [])
  | a :: rest => do
    let (s, journal) ← s.step machine a
    let (s, more) ← s.perform machine rest
    return (s, journal ++ more)

theorem perform_append {s after : Service} {before later : List Action} {journal : Journal} :
    s.perform machine (before ++ later) = some (after, journal) ↔
      ∃ mid first more, s.perform machine before = some (mid, first) ∧
        mid.perform machine later = some (after, more) ∧ journal = first ++ more := by
  induction before generalizing s journal with
  | nil =>
    constructor
    · exact fun h => ⟨s, [], journal, rfl, h, rfl⟩
    · rintro ⟨mid, first, more, hnil, hlater, rfl⟩
      cases hnil
      exact hlater
  | cons a before ih =>
    simp only [List.cons_append, perform, Option.bind_eq_bind, Option.bind_eq_some_iff,
      Option.pure_def, Option.some.injEq]
    constructor
    · rintro ⟨⟨next, shown⟩, hstep, ⟨last, rest⟩, hrest, heq⟩
      cases heq
      obtain ⟨mid, first, more, hbefore, hlater, rfl⟩ := ih.1 hrest
      exact ⟨mid, shown ++ first, more, ⟨(next, shown), hstep, (mid, first), hbefore, rfl⟩, hlater,
        (List.append_assoc ..).symm⟩
    · rintro ⟨mid, first, more, ⟨⟨next, shown⟩, hstep, ⟨last, rest⟩, hbefore, heq⟩, hlater, rfl⟩
      cases heq
      exact ⟨(next, shown), hstep, (after, rest ++ more),
        ih.2 ⟨last, rest, more, hbefore, hlater, rfl⟩, by simp⟩

/-- The last step of a run. -/
theorem perform_concat {s after : Service} {before : List Action} {a : Action} {journal : Journal}
    (h : s.perform machine (before ++ [a]) = some (after, journal)) :
    ∃ mid first last, s.perform machine before = some (mid, first) ∧
      Steps machine mid a after last := by
  obtain ⟨mid, first, more, hbefore, hlast, -⟩ := perform_append.1 h
  simp only [perform, Option.bind_eq_bind, Option.bind_eq_some_iff, Option.pure_def] at hlast
  obtain ⟨⟨next, last⟩, hstep, ⟨_, _⟩, hnil, heq⟩ := hlast
  cases hnil
  cases heq
  exact ⟨mid, first, last, hbefore, steps_of_step hstep⟩

/-! ## Waiting and stopping -/

@[simp] theorem wait_phase (s : Service) : s.wait.phase = .waiting := rfl

@[simp] theorem wait_inbox (s : Service) :
    s.wait.inbox = { s.inbox with interrupt := false } := rfl

@[simp] theorem finishReload_phase (s : Service) (result : Except StartError Routing)
    (journal : Journal) : (s.finishReload result journal).1.phase = .waiting := by
  unfold finishReload
  split <;> rfl

@[simp] theorem finishReload_inbox (s : Service) (result : Except StartError Routing)
    (journal : Journal) :
    (s.finishReload result journal).1.inbox = { s.inbox with interrupt := false } := by
  unfold finishReload
  split <;> rfl

theorem choose_phase_of_ends (s : Service) {b : Branch} (h : b.ends = true) :
    (s.choose b).1.phase = .stopped := by
  cases b with
  | stop | interrupt | terminate => rfl
  | hangup | change => cases h

end Service

end Patchbay
