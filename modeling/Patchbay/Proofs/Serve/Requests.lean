/-
Requests for a reload: a hangup, or a change that the watcher reports. Each of them waits until the
loop takes it, and a loop that takes one, alone or among others off the queue, is committed to a
reload that has not begun. So a reload begins after every request, unless the loop stops before.

The request is followed along the history behind it. A hangup is one flag; a change keeps its place
in the queue, with the changes that were reported later behind it.
-/
import Patchbay.Proofs.Serve.History

namespace Patchbay

namespace Service

variable {machine : Machine} {s after : Service} {a : Action} {journal : Journal}

/-! ## Requests that wait -/

/-- The watcher hands a change over. -/
def Moment.reports (m : Moment) : Bool := m.action == .report

/-- Somebody asks for a reload. -/
def Moment.asksReload (m : Moment) : Prop := m.action = .deliver .hangup ∨ m.action = .report

/-- What was asked for at `m` has not been taken: a hangup is remembered, or the reported change is
in the queue, and all that was reported in the `later` steps stands behind it. -/
inductive Pending (m : Moment) (later : List Moment) (s : Service) : Prop
  | hangup (asked : m.action = .deliver .hangup) (remembered : s.inbox.hangup = true)
  | change {path : String} {front behind : List String} (asked : m.action = .report)
      (told : m.state.notices.head? = some path)
      (queued : s.inbox.changes = front ++ path :: behind)
      (since : behind.length = later.countP Moment.reports)

/-- A request waits from when it is made. -/
theorem pending_of_asks {m : Moment} (asks : m.asksReload)
    (step : Steps m.machine m.state m.action after journal) : Pending m [] after := by
  obtain ⟨s, machine, a⟩ := m
  rcases asks with rfl | rfl
  · cases step
    exact .hangup rfl rfl
  · cases step with
    | report sent => exact .change rfl (by rw [sent]; rfl) rfl rfl

theorem Pending.keep {m x : Moment} {later : List Moment} (h : Pending m later s)
    (hangup : s.inbox.hangup = true → after.inbox.hangup = true)
    (changes : after.inbox.changes = s.inbox.changes) (silent : x.reports = false) :
    Pending m (later ++ [x]) after := by
  cases h with
  | hangup asked remembered => exact .hangup asked (hangup remembered)
  | change asked told queued since =>
    refine .change asked told (changes.trans queued) ?_
    rw [List.countP_append, List.countP_singleton, silent, since]
    rfl

/-- A later change goes to the end of the queue. -/
theorem Pending.behind {m x : Moment} {later : List Moment} {path : String} (h : Pending m later s)
    (hangup : after.inbox.hangup = s.inbox.hangup)
    (changes : after.inbox.changes = s.inbox.changes ++ [path]) (reports : x.reports = true) :
    Pending m (later ++ [x]) after := by
  cases h with
  | hangup asked remembered => exact .hangup asked (hangup.trans remembered)
  | @change first front behind asked told queued since =>
    have longer : after.inbox.changes = front ++ first :: (behind ++ [path]) := by
      rw [changes, queued, List.append_assoc, List.cons_append]
    refine .change asked told longer ?_
    rw [List.countP_append, List.countP_singleton, reports, List.length_append, since]
    rfl

/-- A request goes on waiting until the loop takes it and is committed to a reload. -/
theorem Pending.step {m : Moment} {later : List Moment} (h : Pending m later s)
    (step : Steps machine s a after journal) :
    Pending m (later ++ [⟨s, machine, a⟩]) after ∨ after.committed = true ∨
      after.phase = .stopped := by
  cases step with
  | deliver r =>
    have remembered : s.inbox.hangup = true → (s.deliver r).inbox.hangup = true := by
      cases r <;> simp [Service.deliver]
    have same : (s.deliver r).inbox.changes = s.inbox.changes := by
      cases r <;> rfl
    exact .inl (h.keep remembered same rfl)
  | report => exact .inl (h.behind rfl rfl rfl)
  | leave _ _ ends => exact .inr (.inr (choose_phase_of_ends s ends))
  | hangup | drained => exact .inr (.inl (committed_of_toReload rfl))
  | change | settle => exact .inr (.inl rfl)
  | drain phase => exact .inr (.inl (by simp [committed, phase]))
  | giveUp | finish => exact .inl (h.keep (by simp) (by simp) rfl)
  | write | readFirst | listen | arm | enter | fail | readAgain => exact .inl (h.keep id rfl rfl)

/-! ## Requests that are honoured -/

/-- What becomes of a request: it waits, or the loop is committed to a reload, or a reload has begun
since, or the loop has stopped. -/
def Honoured (m : Moment) (later : List Moment) (s : Service) : Prop :=
  Pending m later s ∨ s.committed = true ∨ (∃ b ∈ later, b.beginsReload) ∨ s.phase = .stopped

theorem Honoured.step {m : Moment} {later : List Moment} (h : Honoured m later s)
    (step : Steps machine s a after journal) :
    Honoured m (later ++ [⟨s, machine, a⟩]) after := by
  rcases h with pending | committed | ⟨b, hb, begins⟩ | stopped
  · rcases pending.step step with pending | committed | stopped
    · exact .inl pending
    · exact .inr (.inl committed)
    · exact .inr (.inr (.inr stopped))
  · rcases step.committed committed with committed | begins
    · exact .inr (.inl committed)
    · exact .inr (.inr (.inl ⟨_, List.mem_append_right _ (List.mem_singleton_self _), begins⟩))
  · exact .inr (.inr (.inl ⟨b, List.mem_append_left _ hb, begins⟩))
  · exact .inr (.inr (.inr (step.stopped stopped)))

theorem honoured_of_history {start : Service} {inputs : List (Machine × Action)}
    {before later : List Moment} {m : Moment}
    (h : start.history inputs = some (before ++ m :: later, s)) (asks : m.asksReload) :
    Honoured m later s := by
  -- the induction is over the whole history, in which the request may be the last step
  refine history_induction
    (fun past s => ∀ before later, past = before ++ m :: later → Honoured m later s)
    ?_ ?_ h before later rfl
  · intro before later empty
    simp at empty
  · intro past s machine a after journal ih step before later split
    rcases concat_eq_append_cons split with ⟨rfl, rfl, rfl⟩ | ⟨front, rfl, rfl⟩
    · exact .inl (pending_of_asks asks step)
    · exact (ih before front rfl).step step

/-- At a wait a request that has not been taken can be. -/
theorem Pending.ready {m : Moment} {later : List Moment} (h : Pending m later s) :
    s.ready .hangup = true ∨ s.ready .change = true := by
  cases h with
  | hangup _ remembered => exact .inl remembered
  | change _ _ queued => exact .inr (by simp [Service.ready, queued])

/-- In every state that a service can come to, and for every hangup and every change of a rule file
that it was told of before: the request is still to be taken, a change in its own place in the queue;
or the loop is committed to a reload that has not begun to read; or a reload has begun to read after
the request was made; or the loop has stopped. So when the loop waits and nothing is left for it to
take, a reload has begun after each of the requests, those that were taken off the queue together
and those that came during a reload included. -/
theorem reload_of_request {settings : ForwarderSettings} {watch : Bool} {files : Files}
    {inputs : List (Machine × Action)} {before later : List Moment} {m : Moment}
    (h : (launch settings watch files).history inputs = some (before ++ m :: later, s))
    (asks : m.asksReload) :
    (Pending m later s ∨ s.committed = true ∨ (∃ b ∈ later, b.beginsReload) ∨
      s.phase = .stopped) ∧
    (s.phase = .waiting → s.ready .hangup = false → s.ready .change = false →
      ∃ b ∈ later, b.beginsReload) := by
  have honoured := honoured_of_history h asks
  refine ⟨honoured, fun waits hangup change => ?_⟩
  rcases honoured with pending | committed | begun | stopped
  · exact absurd pending.ready (by simp [hangup, change])
  · simp [Service.committed, waits, toReload] at committed
  · exact begun
  · rw [waits] at stopped
    cases stopped

/-- Three changes, of which two are reported when the first is taken and one while the queue is
emptied, and a hangup in the reload that they lead to. -/
theorem reload_of_request_drained :
    let machine : Machine := .offline []
    let start := launch ⟨["r"], 500, "127.0.0.1", [9000]⟩ true (.ofEdits [.write "r" []])
    let save : Action := .write [.write "r" []]
    let early : List Action := [.proceed, .proceed, .proceed, .proceed, save, save, save, .report]
    let late : List Action := [.choose .change, .proceed, .report, .proceed, .proceed, .proceed,
      .proceed, .deliver .hangup, .proceed, .choose .hangup, .proceed, .proceed]
    ∃ before m later s,
      start.history ((early ++ .report :: late).map (machine, ·)) = some (before ++ m :: later, s) ∧
      before.length = early.length ∧ m.asksReload ∧ s.phase = .waiting ∧
      s.ready .hangup = false ∧ s.ready .change = false ∧ ∃ b ∈ later, b.beginsReload := by
  intro machine start save early late
  have reached : (start.history ((early ++ .report :: late).map (machine, ·))).map
      (fun r => (r.1.map (·.action), r.2.phase, r.2.inbox)) =
        some (early ++ .report :: late, .waiting, {}) := by
    decide +kernel
  obtain ⟨⟨past, s⟩, h, heq⟩ := Option.map_eq_some_iff.1 reached
  simp only [Prod.mk.injEq] at heq
  obtain ⟨actions, waits, inbox⟩ := heq
  obtain ⟨before, rest, rfl, first, second⟩ := List.map_eq_append_iff.1 actions
  obtain ⟨m, later, rfl, reports, -⟩ := List.map_eq_cons_iff.1 second
  have asks : m.asksReload := .inr reports
  have hangup : s.ready .hangup = false := by simp [ready, inbox]
  have change : s.ready .change = false := by simp [ready, inbox]
  have place : before.length = early.length := by rw [← first, List.length_map]
  exact ⟨before, m, later, s, h, place, asks, waits, hangup, change,
    (reload_of_request h asks).2 waits hangup change⟩

end Service

end Patchbay
