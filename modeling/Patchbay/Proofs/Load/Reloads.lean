/-
Reloads one after another. What a forwarder has published is the last routing that could be loaded;
a reload that goes wrong leaves it as it was. The gauges show the published table and the counters
the results of the reloads, because a load that fails touches no metric and one that does not sets
the gauges just before its routing is published.
-/
import Patchbay.Proofs.Load.Routing

namespace Patchbay

theorem Listener.bindAll_silent (machine : Machine) (host : String) (place : Nat)
    (ports : List UInt16) : (bindAll machine host place ports).2.Silent := by
  induction ports generalizing place with
  | nil => exact nofun
  | cons port rest ih =>
    rw [bindAll_cons_eq]
    cases machine.bind place host port with
    | error reason => exact nofun
    | ok address => exact (Journal.silent_event (.listening address)).append (ih (place + 1))

namespace Forwarder

/-- What a reload finds: the files and the machine. -/
structure Attempt where
  read : FileReader
  machine : Machine

/-- What loading comes to. -/
def Attempt.result (settings : ForwarderSettings) (a : Attempt) : Except StartError Routing :=
  (Routing.load a.read a.machine settings.sendTimeout settings.ruleFiles).1

/-- The routing that can be loaded. -/
def Attempt.loaded? (settings : ForwarderSettings) (a : Attempt) : Option Routing :=
  (a.result settings).toOption

/-- Reloads one after another, with the result of each. -/
def reloadAll (f : Forwarder) : List Attempt → List (Option StartError) × Forwarder × Journal
  | [] => ([], f, [])
  | a :: rest =>
    let (result, f, journal) := f.reload a.read a.machine
    let (results, f, more) := f.reloadAll rest
    (result :: results, f, journal ++ more)

/-! ## One reload -/

/-- Everything that a reload can do. -/
theorem reload_cases (f : Forwarder) (a : Attempt) :
    (∃ routing journal, f.reload a.read a.machine =
        (none, { f with routing := routing, generation := f.generation + 1 }, journal) ∧
      a.loaded? f.settings = some routing ∧
      ¬ Routing.Fault a.read a.machine f.settings.ruleFiles ∧
      ∀ m v, journal.foldl (Entry.apply m) v =
        if m = .routingRules then routing.table.rules.length
        else if m = .routingTargets then routing.table.registry.size
        else if m = .reloads true then v + 1 else v) ∨
    ∃ e journal, f.reload a.read a.machine = (some e, f, journal) ∧
      a.loaded? f.settings = none ∧ Routing.Fault a.read a.machine f.settings.ruleFiles ∧
      ∀ m v, journal.foldl (Entry.apply m) v = if m = .reloads false then v + 1 else v := by
  unfold reload Attempt.loaded? Attempt.result
  rcases Routing.load_cases a.read a.machine f.settings.sendTimeout f.settings.ruleFiles with
    ⟨routing, quiet, hload, silent, -, sound⟩ | ⟨e, journal, hload, silent, fault⟩
  · rw [hload]
    refine .inl ⟨routing, _, rfl, rfl, sound, fun m v => ?_⟩
    rw [List.foldl_append, List.foldl_append, silent.foldl_apply, Routing.foldl_loadedEntries]
    cases m with
    | reloads success => cases success <;> rfl
    | _ => rfl
  · rw [hload]
    refine .inr ⟨e, _, rfl, rfl, fault, fun m v => ?_⟩
    rw [List.foldl_append, silent.foldl_apply]
    cases m with
    | reloads success => cases success <;> rfl
    | _ => rfl

/-! ## All reloads -/

/-- What holds after the reloads `seen` with their results; `first` was published before them. The
routing is that of the last reload that could load one, the gauges are those of its table, and the
counters are those of the results. -/
structure Agrees (settings : ForwarderSettings) (first : Routing) (seen : List Attempt)
    (results : List (Option StartError)) (f : Forwarder) (journal : Journal) : Prop where
  configured : f.settings = settings
  published : f.routing = (seen.filterMap (·.loaded? settings)).getLast?.getD first
  outcomes : List.Forall₂
    (fun a result => result.isSome = true ↔ Routing.Fault a.read a.machine settings.ruleFiles)
    seen results
  rules : journal.value .routingRules = f.routing.table.rules.length
  targets : journal.value .routingTargets = f.routing.table.registry.size
  successes : journal.value (.reloads true) = results.countP (·.isNone)
  failures : journal.value (.reloads false) = results.countP (·.isSome)

variable {settings : ForwarderSettings} {first : Routing} {seen : List Attempt}
  {results : List (Option StartError)} {f : Forwarder} {journal : Journal}

theorem Agrees.reload (h : Agrees settings first seen results f journal) (a : Attempt) :
    Agrees settings first (seen ++ [a]) (results ++ [(f.reload a.read a.machine).1])
      (f.reload a.read a.machine).2.1 (journal ++ (f.reload a.read a.machine).2.2) := by
  obtain ⟨rfl, published, outcomes, rules, targets, successes, failures⟩ := h
  rcases f.reload_cases a with ⟨next, more, hreload, loaded, sound, values⟩ |
    ⟨e, more, hreload, loaded, fault, values⟩
  · rw [hreload]
    refine ⟨rfl, ?_, List.rel_append outcomes (.cons (by simpa using sound) .nil), ?_, ?_, ?_, ?_⟩
    · simp [loaded]
    · rw [Journal.value_append, values]
      rfl
    · rw [Journal.value_append, values]
      rfl
    · rw [Journal.value_append, values, successes, List.countP_append]
      rfl
    · rw [Journal.value_append, values, failures, List.countP_append]
      rfl
  · rw [hreload]
    refine ⟨rfl, ?_, List.rel_append outcomes (.cons (by simpa using fault) .nil), ?_, ?_, ?_, ?_⟩
    · simp [loaded, published]
    · rw [Journal.value_append, values]
      exact rules
    · rw [Journal.value_append, values]
      exact targets
    · rw [Journal.value_append, values, List.countP_append]
      exact successes
    · rw [Journal.value_append, values, failures, List.countP_append]
      rfl

theorem Agrees.reloadAll (h : Agrees settings first seen results f journal)
    (attempts : List Attempt) :
    Agrees settings first (seen ++ attempts) (results ++ (f.reloadAll attempts).1)
      (f.reloadAll attempts).2.1 (journal ++ (f.reloadAll attempts).2.2) := by
  induction attempts generalizing seen results f journal with
  | nil => simpa [Forwarder.reloadAll] using h
  | cons a rest ih => simpa [Forwarder.reloadAll] using ih (h.reload a)

/-- A start publishes what it loads. It is no reload. -/
theorem agrees_start {read : FileReader} {machine : Machine}
    (h : start read machine settings = (.ok f, journal)) :
    ∃ first, Attempt.loaded? settings ⟨read, machine⟩ = some first ∧
      Agrees settings first [] [] f journal := by
  rw [start_eq] at h
  unfold Attempt.loaded? Attempt.result
  rcases Routing.load_cases read machine settings.sendTimeout settings.ruleFiles with
    ⟨routing, quiet, hload, silent, -⟩ | ⟨e, failed, hload, -⟩
  · rw [hload] at h ⊢
    have binding := Listener.bindAll_silent machine settings.bindHost 0 settings.ports
    rcases hbind : Listener.bindAll machine settings.bindHost 0 settings.ports with
      ⟨e | addresses, bound⟩
    · simp only [listen_eq, hbind, Prod.mk.injEq, reduceCtorEq, false_and] at h
    · rw [hbind] at binding
      simp only [listen_eq, hbind, Prod.mk.injEq, Except.ok.injEq] at h
      obtain ⟨rfl, rfl⟩ := h
      have values : ∀ m, Journal.value (quiet ++ Routing.loadedEntries routing.table ++
          (bound ++ [.event (.listenAddresses addresses)])) m =
            if m = .routingRules then routing.table.rules.length
            else if m = .routingTargets then routing.table.registry.size else 0 := by
        intro m
        rw [Journal.value_append, Journal.value_append,
          (binding.append (Journal.silent_event _)).foldl_apply, Routing.foldl_loadedEntries,
          Journal.value, silent.foldl_apply]
      exact ⟨routing, rfl, rfl, rfl, .nil, values _, values _, values _, values _⟩
  · rw [hload] at h
    cases h

/-- After any reloads, whatever each of them found, the published routing is the one that was loaded
last, and a reload that cannot load leaves the forwarder as it is. A reload fails exactly if a file
cannot be read, a line is not grammatical, or a target cannot be reached. The gauges are the numbers
of rules and targets of the published table; the counters are those of the reloads that went well
and of those that failed. -/
theorem start_reloadAll {read : FileReader} {machine : Machine}
    (h : start read machine settings = (.ok f, journal)) (attempts : List Attempt) :
    let (results, last, more) := f.reloadAll attempts
    ∃ first, Attempt.loaded? settings ⟨read, machine⟩ = some first ∧
      Agrees settings first attempts results last (journal ++ more) ∧
      ∀ a : Attempt, Routing.Fault a.read a.machine settings.ruleFiles →
        (last.reload a.read a.machine).2.1 = last := by
  obtain ⟨first, loaded, agrees⟩ := agrees_start h
  have after := agrees.reloadAll attempts
  refine ⟨first, loaded, after, fun a fault => ?_⟩
  rcases (f.reloadAll attempts).2.1.reload_cases a with ⟨_, _, -, -, sound, -⟩ |
    ⟨e, more, hreload, -⟩
  · rw [after.configured] at sound
    exact absurd fault sound
  · rw [hreload]

/-- One reload goes well; then the file is gone, has a bad line, and names an unknown host. -/
theorem start_reloadAll_failing :
    let machine : Machine := .offline []
    let settings : ForwarderSettings := ⟨["rules"], 500, "127.0.0.1", [9000]⟩
    let written (text : String) : Attempt := ⟨fun _ => .ok text, machine⟩
    let initial := written "/a + 127.0.0.1:1 127.0.0.1:1/x\n"
    let attempts : List Attempt := [written "/b - 127.0.0.1:2\n/c + 127.0.0.1:1\n",
      ⟨fun _ => .error "gone", machine⟩, written "/a + 127.0.0.1:1\n/b\n",
      written "/a + elsewhere:1\n"]
    attempts.map (fun a => (a.loaded? settings).map (·.table.rules.length)) =
        [some 2, none, none, none] ∧
      ∃ f journal, start initial.read machine settings = (.ok f, journal) ∧
        let (results, last, more) := f.reloadAll attempts
        ∃ first, Attempt.loaded? settings ⟨initial.read, machine⟩ = some first ∧
          Agrees settings first attempts results last (journal ++ more) ∧
          ∀ a : Attempt, Routing.Fault a.read a.machine settings.ruleFiles →
            (last.reload a.read a.machine).2.1 = last := by
  intro machine settings written initial attempts
  refine ⟨by decide +kernel, ?_⟩
  have started : (start initial.read machine settings).1.toOption.isSome = true := by
    decide +kernel
  rcases h : start initial.read machine settings with ⟨_ | f, journal⟩
  · rw [h] at started
    cases started
  · exact ⟨f, journal, rfl, start_reloadAll h attempts⟩

end Forwarder

end Patchbay
