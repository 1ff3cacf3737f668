/-
Stopping the monitor: the start takes the receivers one by one, while loops that it started before
may already handle the exit command. So the loops all end exactly if a stop comes after the last
receiver was taken; an earlier one is lost on the loops that are started later.
-/
import Patchbay.Proofs.Stop.Loops

namespace Patchbay.Monitor

/-! ## Leaving -/

/-- Every loop has ended or can read the stop signal. -/
def Leaving (m : Monitor) : Prop :=
  ∀ l ∈ m.loops, l.running = false ∨ m.signal.pending l.receiver = true

instance (m : Monitor) : Decidable m.Leaving :=
  inferInstanceAs (Decidable (∀ l ∈ m.loops, l.running = false ∨ m.signal.pending l.receiver = true))

theorem Sound.leaving_iff {m : Monitor} (h : m.Sound) :
    m.Leaving ↔ ∀ i < m.loops.length, ¬ m.signal.Quiet i := by
  constructor
  · intro leaving i hi
    exact (h.leaves_iff (List.getElem?_eq_getElem hi)).1 (leaving _ (List.getElem_mem hi))
  · intro loud l hl
    obtain ⟨i, hi, rfl⟩ := List.getElem_of_mem hl
    exact (h.leaves_iff (List.getElem?_eq_getElem hi)).2 (loud i hi)

theorem run_single {m after : Monitor} {a : Action} {journal : Journal}
    (h : m.step a = some (after, journal)) : m.run [a] = some (after, journal) := by
  simp [run, h]

theorem step_obey {m : Monitor} {i : Nat} {l : EchoLoop} (here : m.loops[i]? = some l)
    (waits : l.phase = .waiting) (heard : m.signal.pending l.receiver = true) :
    m.step (.obey i) = some (m.finish i l, [.event (.stopSignalReceived l.port)]) := by
  simp [step, obeyOn, here, waits, heard]

theorem length_finish (m : Monitor) (i : Nat) (l : EchoLoop) :
    (m.finish i l).loops.length = m.loops.length := by
  simp [finish]

theorem running_finish {m : Monitor} {i : Nat} {l x : EchoLoop}
    (hx : (m.finish i l).loops[i]? = some x) : x.running = false := by
  obtain ⟨hi, rfl⟩ := List.getElem?_eq_some_iff.1 hx
  simp [finish, EchoLoop.running]

theorem loops_finish_ne {m : Monitor} {i k : Nat} {l : EchoLoop} (hk : k ≠ i) :
    (m.finish i l).loops[k]? = m.loops[k]? := by
  simp [finish, List.getElem?_set_ne (Ne.symm hk)]

/-- A loop whose receiver is not quiet can end by itself, and the others stay as they are. -/
theorem Sound.end_loop {m : Monitor} (h : m.Sound) {i : Nat} (hi : i < m.loops.length)
    (loud : ¬ m.signal.Quiet i) :
    ∃ actions after journal, (∀ a ∈ actions, a = .handle i ∨ a = .obey i) ∧
      m.run actions = some (after, journal) ∧ after.loops.length = m.loops.length ∧
      (∀ k ≠ i, after.loops[k]? = m.loops[k]?) ∧
      ∀ x, after.loops[i]? = some x → x.running = false := by
  obtain ⟨l, here⟩ : ∃ l, m.loops[i]? = some l := ⟨_, List.getElem?_eq_getElem hi⟩
  have leaves := (h.leaves_iff here).2 loud
  cases hphase : l.phase with
  | ended =>
    refine ⟨[], m, [], nofun, rfl, rfl, fun _ _ => rfl, fun x hx => ?_⟩
    cases here.symm.trans hx
    simp [EchoLoop.running, hphase]
  | waiting =>
    have heard : m.signal.pending l.receiver = true :=
      leaves.resolve_left (by simp [EchoLoop.running, hphase])
    exact ⟨[.obey i], _, _, by simp, run_single (step_obey here hphase heard), length_finish m i l,
      fun k hk => loops_finish_ne hk, fun x hx => running_finish hx⟩
  | handling a =>
    have heard : m.signal.pending l.receiver = true :=
      leaves.resolve_left (by simp [EchoLoop.running, hphase])
    rcases hflow : Listener.receive l.port (Echo.handler l.port none) l.written a with
      ⟨_ | _, shown, written⟩
    · -- the loop goes on to its next wait, and there it reads the signal
      let new : EchoLoop := { l with phase := .waiting, written := written }
      let next : Monitor := { m with loops := m.loops.set i new }
      have handled : m.step (.handle i) = some (next, shown) := by
        simp [Monitor.step, handleOn, here, hphase, hflow, next, new]
      have there : next.loops[i]? = some new := List.getElem?_set_self hi
      have both := run_append.2
        ⟨next, _, _, run_single handled, run_single (step_obey there rfl heard), rfl⟩
      refine ⟨[.handle i, .obey i], _, _, by simp, both, ?_, fun k hk => ?_,
        fun x hx => running_finish hx⟩
      · rw [length_finish, List.length_set]
      · rw [loops_finish_ne hk]
        exact List.getElem?_set_ne (Ne.symm hk)
    · let next : Monitor := { m with signal := m.signal.trigger }
      have handled : m.step (.handle i) =
          some (next.finish i { l with written := written }, shown) := by
        simp [Monitor.step, handleOn, here, hphase, hflow, next]
      exact ⟨[.handle i], _, _, by simp, run_single handled, length_finish next i _,
        fun k hk => loops_finish_ne hk, fun x hx => running_finish hx⟩

/-- The loops can end one after the other. -/
theorem Sound.end_first_loops {m : Monitor} (h : m.Sound) (leaving : m.Leaving) (n : Nat)
    (hn : n ≤ m.loops.length) :
    ∃ actions after journal, (∀ a ∈ actions, ∃ i, a = .handle i ∨ a = .obey i) ∧
      m.run actions = some (after, journal) ∧ after.loops.length = m.loops.length ∧
      ∀ k < n, ∀ x, after.loops[k]? = some x → x.running = false := by
  induction n with
  | zero => exact ⟨[], m, [], nofun, rfl, rfl, nofun⟩
  | succ n ih =>
    obtain ⟨before, mid, first, hbefore, hrun, hlength, hended⟩ := ih (by omega)
    -- what the loops before did has made no receiver quiet
    have still : ¬ mid.signal.Quiet n := by
      have counted := h.count
      rw [quiet_run h hrun (by omega)]
      exact fun quiet => h.leaving_iff.1 leaving n (by omega) quiet.1
    obtain ⟨more, after, later, hmore, hlast, hsame, hothers, hend⟩ :=
      (h.run hrun).end_loop (by omega) still
    refine ⟨before ++ more, after, first ++ later, fun a ha => ?_,
      run_append.2 ⟨mid, first, later, hrun, hlast, rfl⟩, by omega, fun k hk x hx => ?_⟩
    · rcases List.mem_append.1 ha with ha | ha
      · exact hbefore a ha
      · exact ⟨n, hmore a ha⟩
    · by_cases hkn : k = n
      · subst hkn
        exact hend x hx
      · rw [hothers k hkn] at hx
        exact hended k (by omega) x hx

/-- Once every loop has ended or can read the stop signal, nothing else is needed for all to end. -/
theorem Sound.end_loops {m : Monitor} (h : m.Sound) (leaving : m.Leaving) :
    ∃ actions after journal, (∀ a ∈ actions, ∃ i, a = .handle i ∨ a = .obey i) ∧
      m.run actions = some (after, journal) ∧ after.runningCount = 0 := by
  obtain ⟨actions, after, journal, hactions, hrun, hlength, hended⟩ :=
    h.end_first_loops leaving m.loops.length (Nat.le_refl _)
  refine ⟨actions, after, journal, hactions, hrun, List.countP_eq_zero.2 fun l hl => ?_⟩
  obtain ⟨i, hi, rfl⟩ := List.getElem_of_mem hl
  simp [hended i (by omega) _ (List.getElem?_eq_getElem hi)]

/-! ## The exact condition -/

/-- In a finished start, all receivers have been taken and each has its loop. -/
theorem Sound.count_of_started {m : Monitor} (h : m.Sound) (done : m.started = true) :
    m.signal.receivers.length = m.loops.length := by
  have free : m.reserved = none := by
    cases hr : m.reserved with
    | none => rfl
    | some k =>
      obtain ⟨-, left, -⟩ := h.reserved k hr
      exact absurd (List.isEmpty_iff.1 done) left
  simpa [free] using h.count

/-- A start that has finished took a receiver for each port. -/
theorem subscribe_mem_of_started {ports : List UInt16} (some_port : ports ≠ [])
    {actions : List Action} {m : Monitor} {journal : Journal}
    (h : (ofPorts ports).run actions = some (m, journal)) (done : m.started = true) :
    .subscribe ∈ actions := by
  have counted := ((sound_start ports).run h).count_of_started done
  have taken : m.signal.receivers.length = actions.count .subscribe := by
    rw [length_receivers_run h]
    simp [ofPorts]
  have loops : m.loops.length = ports.length := by
    have total := length_loops_run h
    simpa [List.isEmpty_iff.1 done, ofPorts] using total
  have ports_pos := List.length_pos_iff.2 some_port
  exact List.count_pos_iff.1 (by omega)

/-- A run that takes a receiver can be cut where it takes its last one. -/
theorem cut_at_last_subscribe {m₀ m : Monitor} {actions : List Action} {journal : Journal}
    (h : m₀.run actions = some (m, journal)) (subscribed : .subscribe ∈ actions) :
    ∃ before mid first after later,
      actions = before ++ .subscribe :: after ∧ .subscribe ∉ after ∧
      m₀.run (before ++ [.subscribe]) = some (mid, first) ∧
      mid.run after = some (m, later) := by
  -- the last one is the first one from the end
  obtain ⟨back, front, hsplit, hlast⟩ :=
    List.eq_append_cons_of_mem (List.mem_reverse.2 subscribed)
  have split : actions = front.reverse ++ .subscribe :: back.reverse := by
    rw [← List.reverse_reverse actions, hsplit]
    simp
  have joined : front.reverse ++ Action.subscribe :: back.reverse =
      (front.reverse ++ [.subscribe]) ++ back.reverse := by simp
  rw [split, joined] at h
  obtain ⟨mid, first, later, hfirst, hlater, -⟩ := run_append.1 h
  exact ⟨front.reverse, mid, first, back.reverse, later, split, by simpa using hlast, hfirst, hlater⟩

/-- The receiver that was taken last has nothing to read when it is taken. -/
theorem quiet_last_subscribe {m₀ mid : Monitor} {before : List Action} {journal : Journal}
    (h : m₀.run (before ++ [.subscribe]) = some (mid, journal)) :
    ∃ k, mid.signal.receivers.length = k + 1 ∧ mid.signal.Quiet k := by
  obtain ⟨last, _, _, -, hstep, -⟩ := run_append.1 h
  obtain ⟨_, _, _, step, hnil, -⟩ := run_cons hstep
  cases hnil
  cases step with
  | subscribe free left =>
    exact ⟨last.signal.receivers.length, by simp [StopSignal.subscribe],
      StopSignal.quiet_subscribe.2 (.inl rfl)⟩

/-- In every state after the start has finished, all loops have ended or can read the stop signal
exactly if a stop, an exit command or another trigger of the signal, came after the start took its
last receiver. Then they all end without anything else. -/
theorem leaving_iff_stops {ports : List UInt16} (some_port : ports ≠ []) {actions : List Action}
    {m : Monitor} {journal : Journal} (h : (ofPorts ports).run actions = some (m, journal))
    (done : m.started = true) :
    ∃ before mid first after later,
      actions = before ++ .subscribe :: after ∧ .subscribe ∉ after ∧
      (ofPorts ports).run (before ++ [.subscribe]) = some (mid, first) ∧
      mid.run after = some (m, later) ∧
      (m.Leaving ↔ Stops after later) ∧
      (m.Leaving → ∃ rest last more, (∀ a ∈ rest, ∃ i, a = .handle i ∨ a = .obey i) ∧
        m.run rest = some (last, more) ∧ last.runningCount = 0) := by
  have sound := (sound_start ports).run h
  have counted := sound.count_of_started done
  obtain ⟨before, mid, first, after, later, split, none_left, hfirst, hlater⟩ :=
    cut_at_last_subscribe h (subscribe_mem_of_started some_port h done)
  have sound_mid := (sound_start ports).run hfirst
  obtain ⟨k, taken, fresh⟩ := quiet_last_subscribe hfirst
  have same : m.signal.receivers.length = mid.signal.receivers.length := by
    rw [length_receivers_run hlater, List.count_eq_zero.2 none_left, Nat.add_zero]
  -- from the cut on no receiver is taken: the last one is quiet there, and a stop reaches them all
  refine ⟨before, mid, first, after, later, split, none_left, hfirst, hlater, ?_,
    fun leaving => sound.end_loops leaving⟩
  rw [sound.leaving_iff]
  constructor
  · intro loud
    have last_loud := loud k (by omega)
    rw [quiet_run sound_mid hlater (by omega)] at last_loud
    by_contra silent
    exact last_loud ⟨fresh, silent⟩
  · intro stops i hi
    rw [quiet_run sound_mid hlater (by omega)]
    exact fun quiet => quiet.2 stops

/-- An exit command as it arrives. -/
def exitArrival : Arrival :=
  .datagram "127.0.0.1:5000" ((⟨Echo.exitPath, [.int 1]⟩ : Osc.Message).encodeAs Echo.exitPath)

/-- An exit command that comes when both receivers are taken ends both loops. -/
theorem leaving_iff_stops_late :
    ∃ m journal, (ofPorts [9000, 9001]).run
        [.subscribe, .spawn, .subscribe, .receive 0 exitArrival, .handle 0, .spawn] =
          some (m, journal) ∧
      m.started = true ∧ m.Leaving ∧
      ∃ rest last more, (∀ a ∈ rest, ∃ i, a = .handle i ∨ a = .obey i) ∧
        m.run rest = some (last, more) ∧ last.runningCount = 0 := by
  have reached : ((ofPorts [9000, 9001]).run
      [.subscribe, .spawn, .subscribe, .receive 0 exitArrival, .handle 0, .spawn]).map (·.1) =
      some ⟨[], none, ⟨1, [none, some ⟨0⟩]⟩, [⟨9000, 0, .ended, ""⟩, ⟨9001, 1, .waiting, ""⟩]⟩ := by
    decide +kernel
  obtain ⟨⟨m, journal⟩, h, rfl⟩ := Option.map_eq_some_iff.1 reached
  obtain ⟨-, -, -, -, -, -, -, -, -, -, ends⟩ := leaving_iff_stops (by decide) h rfl
  exact ⟨_, journal, h, rfl, by decide, ends (by decide)⟩

/-- The exit command is lost on a loop that is started later: the first loop handles it before the
start takes the second receiver, and when the start has finished the second loop waits without a
signal to read. -/
theorem not_leaving_of_early_exit :
    ∃ m journal, (ofPorts [9000, 9001]).run
        [.subscribe, .spawn, .receive 0 exitArrival, .handle 0, .subscribe, .spawn] =
          some (m, journal) ∧
      m.started = true ∧ journal.hasExit = true ∧ ¬ m.Leaving ∧
      ∃ l ∈ m.loops, l.phase = .waiting ∧ m.signal.pending l.receiver = false := by
  have reached : ((ofPorts [9000, 9001]).run
      [.subscribe, .spawn, .receive 0 exitArrival, .handle 0, .subscribe, .spawn]).map
        (fun r => (r.1, r.2.hasExit)) =
      some (⟨[], none, ⟨1, [none, some ⟨1⟩]⟩, [⟨9000, 0, .ended, ""⟩, ⟨9001, 1, .waiting, ""⟩]⟩,
        true) := by
    decide +kernel
  obtain ⟨⟨m, journal⟩, h, heq⟩ := Option.map_eq_some_iff.1 reached
  obtain ⟨rfl, exits⟩ := Prod.mk.inj heq
  exact ⟨_, journal, h, rfl, exits, by decide, ⟨9001, 1, .waiting, ""⟩, by decide, rfl, by decide⟩

end Patchbay.Monitor
