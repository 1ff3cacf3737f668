/-
Loops of the monitor and their receivers: each loop has the receiver that was taken just before it
was started, and drops it when it ends. A receiver that was quiet stays so until the next stop, and
a stop reaches every receiver that was taken by then.
-/
import Patchbay.Monitor
import Patchbay.Proofs.Stop.Receivers
import Mathlib.Data.List.Basic

namespace Patchbay

/-! ## Exit commands -/

/-- An exit command was handled. -/
def Journal.hasExit (journal : Journal) : Bool := journal.any fun
  | .event (.exitCommandReceived _) => true
  | _ => false

theorem Journal.hasExit_append (journal more : Journal) :
    hasExit (journal ++ more) = (journal.hasExit || more.hasExit) :=
  List.any_append

/-- An echo loop ends on an arrival exactly if that is an exit command. -/
theorem Echo.receive_stop_iff (port : UInt16) (written : String) (a : Arrival) :
    (Listener.receive port (handler port none) written a).1 = .stop ↔
      Journal.hasExit (Listener.receive port (handler port none) written a).2.1 = true := by
  cases a with
  | failure reason => simp [Listener.receive, Journal.hasExit]
  | datagram peer bytes =>
    simp only [Listener.receive]
    split
    · rename_i m _
      by_cases hm : isExitCommand m <;> simp [handler, echo, hm, Journal.hasExit]
    · simp [Journal.hasExit]
    · simp [Journal.hasExit]

namespace Monitor

/-! ## Steps -/

/-- What one step can do. -/
inductive Steps (m : Monitor) : Action → Monitor → Journal → Prop where
  | subscribe (free : m.reserved = none) (left : m.unstarted ≠ []) :
      Steps m .subscribe
        { m with reserved := some m.signal.receivers.length, signal := m.signal.subscribe.2 } []
  | spawn {receiver : Nat} {port : UInt16} {rest : List UInt16}
      (taken : m.reserved = some receiver) (next : m.unstarted = port :: rest) :
      Steps m .spawn
        { m with
          unstarted := rest
          reserved := none
          loops := m.loops ++ [⟨port, receiver, .waiting, ""⟩] } []
  | receive {i : Nat} {l : EchoLoop} (a : Arrival) (here : m.loops[i]? = some l)
      (waits : l.phase = .waiting) (silent : m.signal.pending l.receiver = false) :
      Steps m (.receive i a)
        { m with loops := m.loops.set i { l with phase := .handling a } } []
  | handle {i : Nat} {l : EchoLoop} {a : Arrival} {journal : Journal} {written : String}
      (here : m.loops[i]? = some l) (holds : l.phase = .handling a)
      (flow : Listener.receive l.port (Echo.handler l.port none) l.written a =
        (.goOn, journal, written)) :
      Steps m (.handle i)
        { m with loops := m.loops.set i { l with phase := .waiting, written := written } } journal
  | exit {i : Nat} {l : EchoLoop} {a : Arrival} {journal : Journal} {written : String}
      (here : m.loops[i]? = some l) (holds : l.phase = .handling a)
      (flow : Listener.receive l.port (Echo.handler l.port none) l.written a =
        (.stop, journal, written)) :
      Steps m (.handle i)
        ({ m with signal := m.signal.trigger }.finish i { l with written := written }) journal
  | obey {i : Nat} {l : EchoLoop} (here : m.loops[i]? = some l) (waits : l.phase = .waiting)
      (heard : m.signal.pending l.receiver = true) :
      Steps m (.obey i) (m.finish i l) [.event (.stopSignalReceived l.port)]
  | trigger (done : m.started = true) :
      Steps m .trigger { m with signal := m.signal.trigger } []

theorem steps_of_step {m after : Monitor} {a : Action} {journal : Journal}
    (h : m.step a = some (after, journal)) : Steps m a after journal := by
  cases a with
  | subscribe =>
    simp only [step, subscribeNext, Option.map_eq_some_iff, Option.ite_none_right_eq_some,
      Bool.and_eq_true, Option.isNone_iff_eq_none, Bool.not_eq_true', started,
      List.isEmpty_eq_false_iff] at h
    obtain ⟨_, ⟨⟨free, left⟩, hsome⟩, heq⟩ := h
    cases hsome
    cases heq
    exact .subscribe free left
  | spawn =>
    simp only [step, spawnNext, Option.map_eq_some_iff] at h
    obtain ⟨_, hspawn, heq⟩ := h
    split at hspawn
    · rename_i taken next
      cases hspawn
      cases heq
      exact .spawn taken next
    · cases hspawn
  | receive i a =>
    simp only [step, receiveOn, Option.map_eq_some_iff, Option.bind_eq_bind,
      Option.bind_eq_some_iff, Option.ite_none_right_eq_some, Option.pure_def] at h
    obtain ⟨_, ⟨l, here, ⟨waits, silent⟩, hsome⟩, heq⟩ := h
    cases hsome
    cases heq
    exact .receive a here waits silent
  | handle i =>
    simp only [step, handleOn, Option.bind_eq_bind, Option.bind_eq_some_iff, Option.pure_def] at h
    obtain ⟨l, here, h⟩ := h
    split at h
    · rename_i a holds
      split at h
      · rename_i flow
        cases h
        exact .handle here holds flow
      · rename_i flow
        cases h
        exact .exit here holds flow
    · cases h
  | obey i =>
    simp only [step, obeyOn, Option.bind_eq_bind, Option.bind_eq_some_iff,
      Option.ite_none_right_eq_some, Option.pure_def] at h
    obtain ⟨l, here, ⟨waits, heard⟩, hsome⟩ := h
    cases hsome
    exact .obey here waits heard
  | trigger =>
    simp only [step, Option.ite_none_right_eq_some] at h
    obtain ⟨done, hsome⟩ := h
    cases hsome
    exact .trigger done

theorem run_cons {m after : Monitor} {a : Action} {rest : List Action} {journal : Journal}
    (h : m.run (a :: rest) = some (after, journal)) :
    ∃ mid first later, Steps m a mid first ∧ mid.run rest = some (after, later) ∧
      journal = first ++ later := by
  simp only [run, Option.bind_eq_bind, Option.bind_eq_some_iff, Option.pure_def] at h
  obtain ⟨⟨mid, first⟩, hstep, ⟨last, later⟩, hrest, heq⟩ := h
  cases heq
  exact ⟨mid, first, later, steps_of_step hstep, hrest, rfl⟩

theorem run_append {m after : Monitor} {before rest : List Action} {journal : Journal} :
    m.run (before ++ rest) = some (after, journal) ↔
      ∃ mid first later, m.run before = some (mid, first) ∧ mid.run rest = some (after, later) ∧
        journal = first ++ later := by
  induction before generalizing m journal with
  | nil => simp [run]
  | cons a before ih =>
    simp only [List.cons_append, run, Option.bind_eq_bind, Option.bind_eq_some_iff,
      Option.pure_def, Option.some.injEq]
    constructor
    · rintro ⟨⟨next, shown⟩, hstep, ⟨last, more⟩, hrest, heq⟩
      cases heq
      obtain ⟨mid, first, later, hbefore, hlast, rfl⟩ := ih.1 hrest
      exact ⟨mid, shown ++ first, later, ⟨(next, shown), hstep, (mid, first), hbefore, rfl⟩, hlast,
        (List.append_assoc ..).symm⟩
    · rintro ⟨mid, first, later, ⟨⟨next, shown⟩, hstep, ⟨last, more⟩, hbefore, heq⟩, hlast, rfl⟩
      cases heq
      exact ⟨(next, shown), hstep, (after, more ++ later),
        ih.2 ⟨last, more, later, hbefore, hlast, rfl⟩, by simp⟩

/-! ## The invariant -/

/-- Loops and receivers belong together: the loop at place `i` has receiver `i`, which is dropped
exactly when the loop ends, and a receiver that was taken for the next loop is kept for it. -/
structure Sound (m : Monitor) : Prop where
  bounded : m.signal.Bounded
  count : m.signal.receivers.length = m.loops.length + m.reserved.toList.length
  reserved : ∀ k, m.reserved = some k →
    k = m.loops.length ∧ m.unstarted ≠ [] ∧ (m.signal.receiver? k).isSome = true
  loops : ∀ i l, m.loops[i]? = some l →
    l.receiver = i ∧ (m.signal.receiver? i).isSome = l.running

theorem sound_start (ports : List UInt16) : (ofPorts ports).Sound :=
  ⟨nofun, rfl, nofun, nofun⟩

theorem Sound.trigger {m : Monitor} (h : m.Sound) :
    Sound { m with signal := m.signal.trigger } := by
  refine ⟨h.bounded.trigger, ?_, fun k hk => ?_, fun i l hl => ?_⟩
  · rw [StopSignal.receivers_trigger]
    exact h.count
  · rw [StopSignal.receiver?_trigger]
    exact h.reserved k hk
  · rw [StopSignal.receiver?_trigger]
    exact h.loops i l hl

/-- A loop that goes on keeps its receiver. -/
theorem Sound.set {m : Monitor} {i : Nat} {l new : EchoLoop} (h : m.Sound)
    (here : m.loops[i]? = some l) (same : new.receiver = l.receiver)
    (still : new.running = l.running) : Sound { m with loops := m.loops.set i new } := by
  obtain ⟨hi, -⟩ := List.getElem?_eq_some_iff.1 here
  refine ⟨h.bounded, by simpa using h.count, fun k hk => by simpa using h.reserved k hk,
    fun k x hx => ?_⟩
  by_cases hki : k = i
  · subst hki
    rw [List.getElem?_set_self hi] at hx
    cases hx
    rw [same, still]
    exact h.loops k l here
  · rw [List.getElem?_set_ne (Ne.symm hki)] at hx
    exact h.loops k x hx

theorem Sound.finish {m : Monitor} {i : Nat} {l new : EchoLoop} (h : m.Sound)
    (here : m.loops[i]? = some l) (same : new.receiver = l.receiver) :
    Sound (m.finish i new) := by
  obtain ⟨hi, -⟩ := List.getElem?_eq_some_iff.1 here
  have own : new.receiver = i := same.trans (h.loops i l here).1
  unfold Monitor.finish
  rw [own]
  refine ⟨h.bounded.drop i, ?_, fun k hk => ?_, fun k x hx => ?_⟩
  · simpa [StopSignal.length_drop] using h.count
  · obtain ⟨hlast, left, there⟩ := h.reserved k hk
    refine ⟨by simpa using hlast, left, ?_⟩
    rwa [StopSignal.receiver?_drop, if_neg (by omega)]
  · rw [StopSignal.receiver?_drop]
    by_cases hki : k = i
    · subst hki
      rw [List.getElem?_set_self hi] at hx
      cases hx
      exact ⟨rfl, by simp [EchoLoop.running]⟩
    · rw [List.getElem?_set_ne (Ne.symm hki)] at hx
      rw [if_neg hki]
      exact h.loops k x hx

theorem Sound.step {m after : Monitor} {a : Action} {journal : Journal} (h : m.Sound)
    (step : Steps m a after journal) : after.Sound := by
  cases step with
  | subscribe free left =>
    refine ⟨h.bounded.subscribe, ?_, fun k hk => ?_, fun i l hl => ?_⟩
    · simpa [StopSignal.subscribe, free] using h.count
    · cases hk
      refine ⟨by simpa [free] using h.count, left, ?_⟩
      rw [StopSignal.receiver?_subscribe, if_pos rfl]
      rfl
    · have hi : i < m.loops.length := (List.getElem?_eq_some_iff.1 hl).1
      have count := h.count
      rw [StopSignal.receiver?_subscribe, if_neg (by omega)]
      exact h.loops i l hl
  | @spawn receiver port rest taken next =>
    obtain ⟨hlast, -, there⟩ := h.reserved receiver taken
    refine ⟨h.bounded, by simpa [taken] using h.count, by simp, fun i l hl => ?_⟩
    rw [List.getElem?_append] at hl
    split at hl
    · exact h.loops i l hl
    · -- the new loop comes last, and the receiver was kept for that place
      obtain ⟨hi, rfl⟩ := List.getElem?_eq_some_iff.1 hl
      have place : i = receiver := by
        simp only [List.length_singleton] at hi
        omega
      rw [List.getElem_singleton, place]
      exact ⟨rfl, there⟩
  | receive a here waits silent =>
    exact h.set here rfl (by simp [EchoLoop.running, waits])
  | handle here holds flow => exact h.set here rfl (by simp [EchoLoop.running, holds])
  | exit here holds flow => exact h.trigger.finish here rfl
  | obey here waits heard => exact h.finish here rfl
  | trigger done => exact h.trigger

theorem Sound.run {m after : Monitor} {actions : List Action} {journal : Journal} (h : m.Sound)
    (hrun : m.run actions = some (after, journal)) : after.Sound := by
  induction actions generalizing m journal with
  | nil =>
    cases hrun
    exact h
  | cons a rest ih =>
    obtain ⟨mid, first, later, step, hrest, -⟩ := run_cons hrun
    exact ih (h.step step) hrest

/-- A loop has ended or can read the stop signal exactly if its receiver is not quiet. -/
theorem Sound.leaves_iff {m : Monitor} (h : m.Sound) {i : Nat} {l : EchoLoop}
    (hl : m.loops[i]? = some l) :
    (l.running = false ∨ m.signal.pending l.receiver = true) ↔ ¬ m.signal.Quiet i := by
  obtain ⟨own, there⟩ := h.loops i l hl
  rw [StopSignal.quiet_iff, there, own]
  cases l.running <;> simp

/-! ## Counting -/

theorem length_receivers_step {m after : Monitor} {a : Action} {journal : Journal}
    (step : Steps m a after journal) :
    after.signal.receivers.length = m.signal.receivers.length + [a].count .subscribe := by
  cases step <;>
    simp [StopSignal.subscribe, StopSignal.receivers_trigger, StopSignal.length_drop, finish]

/-- A run takes a receiver for each `subscribe`. -/
theorem length_receivers_run {m after : Monitor} {actions : List Action} {journal : Journal}
    (hrun : m.run actions = some (after, journal)) :
    after.signal.receivers.length = m.signal.receivers.length + actions.count .subscribe := by
  induction actions generalizing m journal with
  | nil =>
    cases hrun
    rfl
  | cons a rest ih =>
    obtain ⟨mid, first, later, step, hrest, -⟩ := run_cons hrun
    rw [ih hrest, length_receivers_step step, Nat.add_assoc, ← List.count_append]
    rfl

/-- Every port has a loop or is still to get one. -/
theorem length_loops_run {m after : Monitor} {actions : List Action} {journal : Journal}
    (hrun : m.run actions = some (after, journal)) :
    after.loops.length + after.unstarted.length = m.loops.length + m.unstarted.length := by
  induction actions generalizing m journal with
  | nil =>
    cases hrun
    rfl
  | cons a rest ih =>
    obtain ⟨mid, first, later, step, hrest, -⟩ := run_cons hrun
    have one : mid.loops.length + mid.unstarted.length = m.loops.length + m.unstarted.length := by
      cases step with
      | spawn taken next => simp [next]; omega
      | _ => simp [finish]
    rw [ih hrest, one]

/-! ## Who hears a stop -/

/-- Somebody triggers the stop signal, or an exit command is handled. -/
def Stops (actions : List Action) (journal : Journal) : Prop :=
  .trigger ∈ actions ∨ journal.hasExit = true

theorem stops_cons {a : Action} {rest : List Action} {first later : Journal} :
    Stops (a :: rest) (first ++ later) ↔ Stops [a] first ∨ Stops rest later := by
  simp only [Stops, List.mem_cons, List.not_mem_nil, or_false, Journal.hasExit_append,
    Bool.or_eq_true]
  tauto

/-- Of the receivers that were taken, those that were quiet stay so unless the step is a stop. -/
theorem quiet_step {m after : Monitor} {a : Action} {journal : Journal} (h : m.Sound)
    (step : Steps m a after journal) {k : Nat} (hk : k < m.signal.receivers.length) :
    after.signal.Quiet k ↔ m.signal.Quiet k ∧ ¬ Stops [a] journal := by
  cases step with
  | subscribe free left =>
    simp only [StopSignal.quiet_subscribe]
    simp [Stops, Journal.hasExit, Nat.ne_of_lt hk]
  | spawn taken next => simp [Stops, Journal.hasExit]
  | receive a here waits silent => simp [Stops, Journal.hasExit]
  | @handle i l a journal written here holds flow =>
    have goes_on : ¬ journal.hasExit = true := by
      have stop := Echo.receive_stop_iff l.port l.written a
      rw [flow] at stop
      exact fun hexit => nomatch stop.2 hexit
    simp [Stops, goes_on]
  | @exit i l a journal written here holds flow =>
    have exits : journal.hasExit = true := by
      have stop := Echo.receive_stop_iff l.port l.written a
      rw [flow] at stop
      exact stop.1 rfl
    have loud := StopSignal.not_quiet_trigger h.bounded k
    simp [Stops, exits, finish, StopSignal.quiet_drop, loud]
  | @obey i l here waits heard =>
    -- the receiver that is dropped had a signal to read
    have loud : ¬ m.signal.Quiet l.receiver := by
      rw [StopSignal.quiet_iff, heard]
      simp
    have others : m.signal.Quiet k → k ≠ l.receiver := by
      rintro hq rfl
      exact loud hq
    simpa [Stops, Journal.hasExit, finish, StopSignal.quiet_drop] using others
  | trigger done =>
    have loud := StopSignal.not_quiet_trigger h.bounded k
    simp [Stops, loud]

theorem quiet_run {m after : Monitor} {actions : List Action} {journal : Journal} (h : m.Sound)
    (hrun : m.run actions = some (after, journal)) {k : Nat}
    (hk : k < m.signal.receivers.length) :
    after.signal.Quiet k ↔ m.signal.Quiet k ∧ ¬ Stops actions journal := by
  induction actions generalizing m journal with
  | nil =>
    cases hrun
    simp [Stops, Journal.hasExit]
  | cons a rest ih =>
    obtain ⟨mid, first, later, step, hrest, rfl⟩ := run_cons hrun
    have grown := length_receivers_step step
    rw [ih (h.step step) hrest (by omega), quiet_step h step hk, stops_cons]
    tauto

end Monitor

end Patchbay
