/-
Stop requests of a service. A stop signal and a termination are remembered from when they are
delivered to the end of the loop, whatever the loop was doing. An interrupt is heard by the wait that
it is delivered in and by no other: one that comes during a quiet period or a reload is lost, and so
is one that comes in a wait which another branch ends.
-/
import Mathlib.Data.List.Induction
import Patchbay.Proofs.Serve.Steps

namespace Patchbay

/-- The request is remembered. -/
def Inbox.has (inbox : Inbox) : Request → Bool
  | .interrupt => inbox.interrupt
  | .terminate => inbox.terminate
  | .hangup => inbox.hangup
  | .stop => inbox.stop

namespace Service

variable {machine : Machine} {s after : Service} {a : Action} {journal : Journal}

/-! ## One step -/

/-- A loop that goes on has not stopped before, and remembers the stops that it did and the one that
is delivered now. -/
theorem Steps.has_iff {r : Request} (lasting : r = .stop ∨ r = .terminate)
    (h : Steps machine s a after journal) (live : after.phase ≠ .stopped) :
    s.phase ≠ .stopped ∧ (after.inbox.has r = true ↔ s.inbox.has r = true ∨ a = .deliver r) := by
  cases h with
  | deliver q running =>
    refine ⟨live, ?_⟩
    rcases lasting with rfl | rfl <;> cases q <;> simp [Service.deliver, Inbox.has]
  | leave waits ready ends => exact absurd (choose_phase_of_ends s ends) live
  | write | report => exact ⟨live, by rcases lasting with rfl | rfl <;> simp [Inbox.has]⟩
  | hangup waits | change waits =>
    exact ⟨by simp [waits], by rcases lasting with rfl | rfl <;> simp [Inbox.has]⟩
  | fail early fails =>
    refine ⟨?_, by simp⟩
    intro stopped
    simp [proceed, stopped] at fails
  | readFirst phase | listen phase | arm phase | settle phase | drain phase | drained phase
  | readAgain phase =>
    exact ⟨by simp [phase], by rcases lasting with rfl | rfl <;> simp [Inbox.has]⟩
  | enter phase | giveUp phase | finish phase =>
    exact ⟨by simp [phase], by rcases lasting with rfl | rfl <;> simp [Inbox.has]⟩

/-- An interrupt is remembered at a wait exactly if the wait has heard it. -/
theorem Steps.interrupt_iff (h : Steps machine s a after journal) (waits : after.phase = .waiting) :
    after.inbox.interrupt = true ↔
      s.phase = .waiting ∧ (s.inbox.interrupt = true ∨ a = .deliver .interrupt) := by
  cases h with
  | deliver q running =>
    have same : s.phase = .waiting := waits
    cases q <;> simp [Service.deliver, same]
  | leave _ _ ends =>
    rw [choose_phase_of_ends s ends] at waits
    cases waits
  | write | report =>
    have same : s.phase = .waiting := waits
    simp [same]
  | enter phase | giveUp phase | finish phase => simp [phase]
  | drain phase =>
    rw [phase] at waits
    cases waits
  | hangup | change | fail | readFirst | listen | arm | settle | drained | readAgain => cases waits

/-- A wait goes on until a branch is taken. -/
theorem Steps.waiting_iff (h : Steps machine s a after journal) (waits : s.phase = .waiting) :
    after.phase = .waiting ↔ ∀ b, a ≠ .choose b := by
  cases h with
  | deliver | write | report =>
    simp only [ne_eq, reduceCtorEq, not_false_eq_true, implies_true, iff_true]
    exact waits
  | leave _ _ ends => simp [choose_phase_of_ends s ends]
  | hangup | change => simp [toReload]
  | fail _ fails => simp [proceed, waits] at fails
  | readFirst phase | listen phase | arm phase | settle phase | drain phase | drained phase
  | readAgain phase | enter phase | giveUp phase | finish phase =>
    rw [waits] at phase
    cases phase

/-! ## Runs -/

/-- A value in a list with one more at its end is that one, or was in the list before. -/
theorem concat_eq_append_cons {α : Type} {as before later : List α} {a b : α}
    (h : as ++ [a] = before ++ b :: later) :
    (later = [] ∧ as = before ∧ a = b) ∨
      ∃ front, later = front ++ [a] ∧ as = before ++ b :: front := by
  rcases List.eq_nil_or_concat later with rfl | ⟨front, last, rfl⟩
  · obtain ⟨same, ends⟩ := List.append_inj' h rfl
    exact .inl ⟨rfl, same, List.singleton_inj.1 ends⟩
  · have split : as ++ [a] = (before ++ b :: front) ++ [last] := by simpa using h
    obtain ⟨same, ends⟩ := List.append_inj' split rfl
    exact .inr ⟨front, by rw [List.singleton_inj.1 ends, List.concat_eq_append], same⟩

theorem waiting_of_perform {actions : List Action}
    (h : s.perform machine actions = some (after, journal)) (waits : s.phase = .waiting)
    (kept : ∀ b, .choose b ∉ actions) : after.phase = .waiting := by
  induction actions using List.reverseRecOn generalizing after journal with
  | nil =>
    cases h
    exact waits
  | append_singleton before a ih =>
    obtain ⟨mid, first, last, hbefore, step⟩ := perform_concat h
    have still := ih hbefore fun b hb => kept b (List.mem_append_left _ hb)
    exact (step.waiting_iff still).2 fun b hb => kept b (by simp [hb])

/-- An interrupt came in a wait that has not ended since. -/
def Interrupted (machine : Machine) (s : Service) (actions : List Action) : Prop :=
  ∃ before later mid journal, actions = before ++ .deliver .interrupt :: later ∧
    s.perform machine before = some (mid, journal) ∧ mid.phase = .waiting ∧
    ∀ b, .choose b ∉ later

theorem interrupted_concat {start : Service} {actions : List Action} {first : Journal}
    (h : start.perform machine actions = some (s, first)) (step : Steps machine s a after journal)
    (waits : after.phase = .waiting) :
    Interrupted machine start (actions ++ [a]) ↔
      s.phase = .waiting ∧ (Interrupted machine start actions ∨ a = .deliver .interrupt) := by
  constructor
  · rintro ⟨before, later, mid, shown, split, hbefore, heard, kept⟩
    rcases concat_eq_append_cons split with ⟨rfl, rfl, rfl⟩ | ⟨front, rfl, rfl⟩
    · rw [h] at hbefore
      cases hbefore
      exact ⟨heard, .inr rfl⟩
    · have kept_front : ∀ b, .choose b ∉ front := fun b hb => kept b (by simp [hb])
      obtain ⟨_, _, _, hmid, hlater, -⟩ := perform_append.1 h
      rw [hbefore] at hmid
      cases hmid
      refine ⟨waiting_of_perform hlater heard fun b hb => ?_, .inl ?_⟩
      · rcases List.mem_cons.1 hb with hb | hb
        · cases hb
        · exact kept_front b hb
      · exact ⟨before, front, mid, shown, rfl, hbefore, heard, kept_front⟩
  · rintro ⟨waiting, ⟨before, later, mid, shown, rfl, hbefore, heard, kept⟩ | rfl⟩
    · refine ⟨before, later ++ [a], mid, shown, by simp, hbefore, heard, fun b hb => ?_⟩
      rcases List.mem_append.1 hb with hb | hb
      · exact kept b hb
      · exact (step.waiting_iff waiting).1 waits b (List.mem_singleton.1 hb).symm
    · exact ⟨actions, [], s, first, rfl, h, waiting, fun b hb => by cases hb⟩

/-- At a wait the inbox holds the stops of the whole run, and the interrupts of this wait. -/
theorem has_iff_of_perform {start : Service} (fresh : start.inbox = {})
    (begins : start.phase ≠ .waiting) {actions : List Action}
    (h : start.perform machine actions = some (s, journal)) :
    (s.phase ≠ .stopped → ∀ r, r = .stop ∨ r = .terminate →
      (s.inbox.has r = true ↔ .deliver r ∈ actions)) ∧
    (s.phase = .waiting → (s.inbox.interrupt = true ↔ Interrupted machine start actions)) := by
  induction actions using List.reverseRecOn generalizing s journal with
  | nil =>
    cases h
    refine ⟨fun _ r lasting => ?_, fun waits => absurd waits begins⟩
    rcases lasting with rfl | rfl <;> simp [Inbox.has, fresh]
  | append_singleton before a ih =>
    obtain ⟨mid, first, last, hbefore, step⟩ := perform_concat h
    obtain ⟨stops, interrupts⟩ := ih hbefore
    refine ⟨fun live r lasting => ?_, fun waits => ?_⟩
    · obtain ⟨live_before, kept⟩ := step.has_iff lasting live
      rw [kept, stops live_before r lasting, List.mem_append, List.mem_singleton, eq_comm]
    · rw [step.interrupt_iff waits, interrupted_concat hbefore step waits]
      exact and_congr_right fun waiting => or_congr_left (interrupts waiting)

/-- At every wait of a service, whatever came before it, the branch of the stop signal can be taken
exactly if a stop was ever delivered to the loop, that of the termination exactly if one was, and
that of the interrupt exactly if one came in this wait. Each of the three ends the loop. -/
theorem ready_iff_requested {settings : ForwarderSettings} {watch : Bool} {files : Files}
    {actions : List Action}
    (h : (launch settings watch files).perform machine actions = some (s, journal))
    (waits : s.phase = .waiting) :
    (s.ready .stop = true ↔ .deliver .stop ∈ actions) ∧
    (s.ready .terminate = true ↔ .deliver .terminate ∈ actions) ∧
    (s.ready .interrupt = true ↔ Interrupted machine (launch settings watch files) actions) ∧
    ∀ b : Branch, b.ends = true → s.ready b = true →
      ∃ last shown, s.step machine (.choose b) = some (last, shown) ∧ last.phase = .stopped := by
  obtain ⟨stops, interrupts⟩ := has_iff_of_perform rfl (by simp [launch]) h
  have live : s.phase ≠ .stopped := by simp [waits]
  refine ⟨stops live .stop (.inl rfl), stops live .terminate (.inr rfl), interrupts waits,
    fun b ends ready => ?_⟩
  exact ⟨(s.choose b).1, (s.choose b).2, by simp [step, waits, ready], choose_phase_of_ends s ends⟩

/-- A termination during a reload and an interrupt in the wait after it are both seen there. -/
theorem ready_iff_requested_reload :
    let start := launch ⟨[], 500, "127.0.0.1", [9000]⟩ false {}
    let actions : List Action := [.proceed, .proceed, .proceed, .deliver .hangup, .choose .hangup,
      .deliver .terminate, .proceed, .deliver .interrupt]
    ∃ s journal, start.perform (.offline []) actions = some (s, journal) ∧ s.phase = .waiting ∧
      s.ready .terminate = true ∧ s.ready .interrupt = true ∧ s.ready .stop = false ∧
      Interrupted (.offline []) start actions ∧
      ∃ last shown, s.step (.offline []) (.choose .terminate) = some (last, shown) ∧
        last.phase = .stopped := by
  intro start actions
  have reached : (start.perform (.offline []) actions).map (fun r => (r.1.phase, r.1.inbox)) =
      some (.waiting, { interrupt := true, terminate := true }) := by decide +kernel
  obtain ⟨⟨s, journal⟩, h, heq⟩ := Option.map_eq_some_iff.1 reached
  simp only [Prod.mk.injEq] at heq
  obtain ⟨waits, inbox⟩ := heq
  obtain ⟨stop, terminate, interrupt, ending⟩ := ready_iff_requested h waits
  have heard : s.ready .interrupt = true := by simp [ready, inbox]
  have asked : s.ready .terminate = true := terminate.2 (by decide)
  have unasked : s.ready .stop = false := by simp [ready, inbox]
  exact ⟨s, journal, h, waits, asked, heard, unasked, interrupt.1 heard, ending .terminate rfl asked⟩

/-- An interrupt is lost: it comes while a hangup is being answered, when the loop has waited before,
and the next wait can take no branch that ends the loop. Nothing is left to be done. -/
theorem not_ready_of_interrupt_in_reload :
    let start := launch ⟨[], 500, "127.0.0.1", [9000]⟩ false {}
    let waiting : List Action := [.proceed, .proceed, .proceed]
    let interrupted : List Action :=
      waiting ++ [.deliver .hangup, .choose .hangup, .deliver .interrupt, .proceed]
    ∃ first shown s journal, start.perform (.offline []) waiting = some (first, shown) ∧
      first.phase = .waiting ∧ start.perform (.offline []) interrupted = some (s, journal) ∧
      s.phase = .waiting ∧ (∀ b : Branch, b.ends = true → s.ready b = false) ∧ s.next? = none := by
  intro start waiting interrupted
  have waited : (start.perform (.offline []) waiting).map (·.1.phase) = some .waiting := by
    decide +kernel
  have reached : (start.perform (.offline []) interrupted).map
      (fun r => (r.1.phase, r.1.inbox, r.1.notices)) = some (.waiting, {}, []) := by decide +kernel
  obtain ⟨⟨first, shown⟩, hfirst, phase⟩ := Option.map_eq_some_iff.1 waited
  obtain ⟨⟨s, journal⟩, h, heq⟩ := Option.map_eq_some_iff.1 reached
  simp only [Prod.mk.injEq] at heq
  obtain ⟨waits, inbox, notices⟩ := heq
  have unready : ∀ b, s.ready b = false := fun b => by cases b <;> simp [ready, inbox]
  refine ⟨first, shown, s, journal, hfirst, phase, h, waits, fun b _ => unready b, ?_⟩
  simp [next?, waits, notices, unready]

end Service

end Patchbay
