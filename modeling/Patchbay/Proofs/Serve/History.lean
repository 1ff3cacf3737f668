/-
The history of a service: the steps of a run, each with the state that it was made in. The machine
may answer differently in every step, so whether a load goes well is open each time. What holds of
every history is shown by induction from its end, one step at a time.

A reload begins with the loop's first step towards reading the rule files. Before that step the loop
may be committed to it: in the quiet period after a change, while it takes further changes off the
queue, and when it is just about to read.
-/
import Patchbay.Proofs.Serve.Stops

namespace Patchbay

namespace Service

variable {machine : Machine} {s after : Service} {a : Action} {journal : Journal}

/-- A step of a run: the state that it was made in, the machine's answers and the action. -/
structure Moment where
  state : Service
  machine : Machine
  action : Action

/-- The steps that some actions make and the state after them; `none` if one of them is not
possible. -/
def history (s : Service) : List (Machine × Action) → Option (List Moment × Service)
  | [] => some ([], s)
  | (machine, a) :: rest => do
    let (after, _) ← s.step machine a
    let (later, last) ← after.history rest
    return (⟨s, machine, a⟩ :: later, last)

/-- The last step of a history. -/
theorem history_concat {before : List (Machine × Action)} {past : List Moment}
    (h : s.history (before ++ [(machine, a)]) = some (past, after)) :
    ∃ mid first journal, s.history before = some (first, mid) ∧
      Steps machine mid a after journal ∧ past = first ++ [⟨mid, machine, a⟩] := by
  induction before generalizing s past with
  | nil =>
    simp only [List.nil_append, history, Option.bind_eq_bind, Option.bind_eq_some_iff,
      Option.pure_def, Option.some.injEq] at h
    obtain ⟨⟨next, journal⟩, hstep, ⟨_, _⟩, hnil, heq⟩ := h
    cases hnil
    cases heq
    exact ⟨s, [], journal, rfl, steps_of_step hstep, rfl⟩
  | cons input before ih =>
    obtain ⟨machine, b⟩ := input
    simp only [List.cons_append, history, Option.bind_eq_bind, Option.bind_eq_some_iff,
      Option.pure_def, Option.some.injEq] at h ⊢
    obtain ⟨⟨next, shown⟩, hstep, ⟨rest, last⟩, hrest, heq⟩ := h
    cases heq
    obtain ⟨mid, first, journal, hbefore, step, rfl⟩ := ih hrest
    exact ⟨mid, ⟨s, machine, b⟩ :: first, journal, ⟨_, hstep, _, hbefore, rfl⟩, step, rfl⟩

/-- A history consists of what was done. -/
theorem history_inputs {inputs : List (Machine × Action)} {past : List Moment}
    (h : s.history inputs = some (past, after)) :
    past.map (fun m => (m.machine, m.action)) = inputs := by
  induction inputs generalizing s past with
  | nil =>
    cases h
    rfl
  | cons input rest ih =>
    obtain ⟨machine, a⟩ := input
    simp only [history, Option.bind_eq_bind, Option.bind_eq_some_iff, Option.pure_def,
      Option.some.injEq] at h
    obtain ⟨_, -, ⟨later, last⟩, hrest, heq⟩ := h
    cases heq
    rw [List.map_cons, ih hrest]

/-- What holds at the start and is kept by every step holds after every run. -/
theorem history_induction {start : Service} (holds : List Moment → Service → Prop)
    (first : holds [] start)
    (next : ∀ {past s machine a after journal}, holds past s → Steps machine s a after journal →
      holds (past ++ [⟨s, machine, a⟩]) after)
    {inputs : List (Machine × Action)} {past : List Moment}
    (h : start.history inputs = some (past, s)) : holds past s := by
  induction inputs using List.reverseRecOn generalizing past s with
  | nil =>
    cases h
    exact first
  | append_singleton before input ih =>
    obtain ⟨machine, a⟩ := input
    obtain ⟨mid, seen, journal, hbefore, step, rfl⟩ := history_concat h
    exact next (ih hbefore) step

/-! ## The loop -/

/-- The loop has been entered and has not stopped. -/
def serving (s : Service) : Bool :=
  match s.phase with
  | .waiting | .settling _ | .draining _ | .reloading _ => true
  | _ => false

theorem running_of_serving (hs : s.serving = true) : s.running = true ∧ s.phase ≠ .armed := by
  unfold serving at hs
  unfold running
  split at hs <;> simp_all

theorem Steps.stopped (h : Steps machine s a after journal) (stopped : s.phase = .stopped) :
    after.phase = .stopped := by
  cases h with
  | deliver | write | report => exact stopped
  | leave _ _ ends => exact choose_phase_of_ends s ends
  | fail _ fails => simp [proceed, stopped] at fails
  | hangup phase | change phase | readFirst phase | listen phase | arm phase | enter phase
  | settle phase | drain phase | drained phase | readAgain phase | giveUp phase | finish phase =>
    rw [stopped] at phase
    cases phase

/-- The loop goes on until it stops. -/
theorem Steps.serving (h : Steps machine s a after journal) (hs : s.serving = true) :
    after.serving = true ∨ after.phase = .stopped := by
  obtain ⟨running, armed⟩ := running_of_serving hs
  cases h with
  | deliver | write | report => exact .inl hs
  | leave _ _ ends => exact .inr (choose_phase_of_ends s ends)
  | fail early => exact absurd early (by simp [running, armed])
  | readFirst phase | listen phase | arm phase | enter phase => simp [Service.serving, phase] at hs
  | drain phase => exact .inl (by simp [Service.serving, phase])
  | giveUp | finish => exact .inl (by simp [Service.serving])
  | hangup | change | settle | drained | readAgain => exact .inl rfl

/-! ## Settings -/

theorem choose_watch (s : Service) (b : Branch) : (s.choose b).1.watch = s.watch := by
  cases b with
  | change => cases queued : s.inbox.changes <;> simp [choose, queued]
  | _ => rfl

theorem finishReload_watch (s : Service) (result : Except StartError Routing)
    (journal : Journal) : (s.finishReload result journal).1.watch = s.watch := by
  unfold finishReload
  split <;> rfl

/-- A service watches from its launch on or never. -/
theorem Steps.watch_eq (h : Steps machine s a after journal) : after.watch = s.watch := by
  cases h with
  | leave => exact choose_watch ..
  | giveUp | finish => exact finishReload_watch ..
  | _ => rfl

/-! ## Reloads -/

/-- The loop will read the rule files anew and has not begun to. -/
def committed (s : Service) : Bool :=
  match s.phase with
  | .settling _ | .draining _ => true
  | phase => phase == s.toReload

/-- The loop begins to read the rule files. -/
def Moment.beginsReload (m : Moment) : Prop :=
  m.action = .proceed ∧ m.state.phase = m.state.toReload

theorem committed_iff_of_reloading {p : Progress} (reloads : s.phase = .reloading p) :
    s.committed = true ↔ s.phase = s.toReload := by
  simp [committed, reloads]

theorem committed_of_toReload (h : s.phase = s.toReload) : s.committed = true := by
  rw [committed_iff_of_reloading h, h]

theorem serving_of_committed (h : s.committed = true) : s.serving = true := by
  unfold committed at h
  unfold serving
  split at h
  · simp [*]
  · simp [*]
  · rw [eq_of_beq h, toReload]

/-- The loop stays committed to a reload until it begins it. -/
theorem Steps.committed (h : Steps machine s a after journal) (hs : s.committed = true) :
    after.committed = true ∨ Moment.beginsReload ⟨s, machine, a⟩ := by
  cases h with
  | deliver | write | report => exact .inl hs
  | settle | drained => exact .inl (by simp [Service.committed, toReload])
  | drain phase => exact .inl (by simp [Service.committed, phase])
  | readAgain phase | giveUp phase | finish phase =>
    exact .inr ⟨rfl, (committed_iff_of_reloading phase).1 hs⟩
  | fail early =>
    obtain ⟨running, armed⟩ := running_of_serving (serving_of_committed hs)
    exact absurd early (by simp [running, armed])
  | leave phase | hangup phase | change phase | readFirst phase | listen phase | arm phase
  | enter phase => simp [Service.committed, phase, toReload] at hs

end Service

end Patchbay
