/-
The places behind a plan. A message goes through the rules of a table place by place, so the sends of
one rule stand next to each other, and the number of longest runs of sends of one rule is the number
of places whose rule has the head of the message and a target. This holds of every table: rules may
look alike, name no target, or name numbers that the registry does not know.

The plan is cut at a place: what stands before it comes from rules at lower places, what stands
behind it from rules at higher ones.
-/
import Patchbay.Proofs.Dispatch.Plan

namespace Patchbay

namespace Table

variable {t : Table} {address : String}

/-! ## Places -/

/-- The number stands for a target. -/
def resolves (t : Table) (id : TargetId) : Bool := (t.target? id).isSome

/-- The rule at place `i` has the head of the address, and at least one of its numbers stands for a
target. -/
def matchesAt (t : Table) (address : String) (i : Fin t.rules.length) : Bool :=
  (some t.rules[i].head == Path.head? address) && t.rules[i].targets.any t.resolves

/-- The sends of the rule at place `i` are one run of the plan: one for each of its numbers that stands
for a target, and none elsewhere. -/
def OneRun (t : Table) (plan : List Forward) (i : Fin t.rules.length) : Prop :=
  ∃ before run after, plan = before ++ run ++ after ∧
    run.length = t.rules[i].targets.countP t.resolves ∧
    (∀ f ∈ run, f.position = i ∧ f.rule = t.rules[i]) ∧
    ∀ f ∈ before ++ after, f.position ≠ i

theorem length_forwards (t : Table) (address : String) (position : Nat) (rule : Rule) :
    (t.forwards address position rule).length = rule.targets.countP t.resolves := by
  rw [forwards, List.length_map, List.length_filterMap_eq_countP]
  rfl

theorem mem_forwards {position : Nat} {rule : Rule} {f : Forward}
    (h : f ∈ t.forwards address position rule) : f.position = position ∧ f.rule = rule := by
  obtain ⟨target, -, rfl⟩ := List.mem_map.1 h
  exact ⟨rfl, rfl⟩

/-- Whether a rule has a target can be read off its numbers. -/
theorem meaning_targets_isEmpty (t : Table) (rule : Rule) :
    (!(t.meaning rule).targets.isEmpty) = rule.targets.any t.resolves := by
  rw [Bool.eq_iff_iff]
  simp [meaning, resolves, Option.isSome_iff_ne_none]

/-! ## Runs -/

/-- The sends of rules that stand at the places from `first` on. -/
def plannedFrom (t : Table) (address : String) (first : Nat) (rules : List Rule) : List Forward :=
  ((rules.zipIdx first).filter fun r => some r.1.head == Path.head? address).flatMap fun r =>
    t.forwards address r.2 r.1

theorem plan_eq_plannedFrom (t : Table) (address : String) :
    t.plan address = t.plannedFrom address 0 t.rules :=
  t.plan_eq_route address

theorem plannedFrom_append (t : Table) (address : String) (first : Nat) (front back : List Rule) :
    t.plannedFrom address first (front ++ back) =
      t.plannedFrom address first front ++ t.plannedFrom address (first + front.length) back := by
  simp only [plannedFrom, List.zipIdx_append, List.filter_append, List.flatMap_append]

theorem plannedFrom_cons (t : Table) (address : String) (first : Nat) (rule : Rule)
    (rules : List Rule) :
    t.plannedFrom address first (rule :: rules) =
      (if some rule.head == Path.head? address then t.forwards address first rule else []) ++
        t.plannedFrom address (first + 1) rules := by
  simp only [plannedFrom, List.zipIdx_cons, List.filter_cons]
  split <;> simp

/-- A planned send comes from the rule at its place. -/
theorem mem_plannedFrom {first : Nat} {rules : List Rule} {f : Forward}
    (h : f ∈ t.plannedFrom address first rules) :
    ∃ i : Fin rules.length, f.position = first + i ∧ f.rule = rules[i] ∧
      some f.rule.head = Path.head? address ∧ f ∈ t.forwards address f.position f.rule := by
  obtain ⟨⟨rule, place⟩, hr, hf⟩ := List.mem_flatMap.1 h
  obtain ⟨hplace, hhead⟩ := List.mem_filter.1 hr
  obtain ⟨low, high, hrule⟩ := List.mem_zipIdx hplace
  obtain ⟨hposition, hsame⟩ := mem_forwards hf
  refine ⟨⟨place - first, by omega⟩, ?_, hsame.trans hrule, ?_, ?_⟩
  · rw [hposition]
    exact (Nat.add_sub_cancel' low).symm
  · rw [hsame]
    exact beq_iff_eq.1 hhead
  · rwa [hposition, hsame]

/-- At each place that the message goes through the plan holds one run of sends. -/
theorem oneRun_plan {i : Fin t.rules.length} (h : t.matchesAt address i = true) :
    t.OneRun (t.plan address) i := by
  have hhead : (some t.rules[i].head == Path.head? address) = true := by
    rw [matchesAt, Bool.and_eq_true] at h
    exact h.1
  have cut : t.rules = t.rules.take i ++ t.rules[i] :: t.rules.drop (i + 1) := by simp
  have below : (t.rules.take i).length = i := by
    rw [List.length_take]
    omega
  refine ⟨t.plannedFrom address 0 (t.rules.take i), t.forwards address i t.rules[i],
    t.plannedFrom address (i + 1) (t.rules.drop (i + 1)), ?_, length_forwards .., ?_, ?_⟩
  · rw [plan_eq_plannedFrom]
    conv_lhs => rw [cut]
    rw [plannedFrom_append, plannedFrom_cons, below, if_pos hhead, Nat.zero_add, List.append_assoc]
  · intro f hf
    exact mem_forwards hf
  · intro f hf
    rcases List.mem_append.1 hf with hf | hf
    · obtain ⟨j, hj, -⟩ := mem_plannedFrom hf
      omega
    · obtain ⟨j, hj, -⟩ := mem_plannedFrom hf
      omega

/-- Nothing else is planned. -/
theorem matchesAt_of_mem_plan {f : Forward} (h : f ∈ t.plan address) :
    ∃ i : Fin t.rules.length, t.matchesAt address i = true ∧ f.position = i ∧
      f.rule = t.rules[i] := by
  rw [plan_eq_plannedFrom] at h
  obtain ⟨i, hposition, hrule, hhead, hf⟩ := mem_plannedFrom h
  refine ⟨i, ?_, by rw [hposition, Nat.zero_add], hrule⟩
  have sends : 0 < (t.forwards address f.position f.rule).length := List.length_pos_of_mem hf
  rw [length_forwards, List.countP_pos_iff] at sends
  rw [matchesAt, ← hrule, hhead, beq_self_eq_true, Bool.true_and, List.any_eq_true]
  exact sends

/-! ## The count -/

/-- The matched rules are the places that the message goes through. -/
theorem matchedRules_plan_places (t : Table) (address : String) :
    matchedRules (t.plan address) = (List.finRange t.rules.length).countP (t.matchesAt address) := by
  have rule (i : Fin t.rules.length) : ((some (t.meaning t.rules[i]).head == Path.head? address) &&
      !(t.meaning t.rules[i]).targets.isEmpty) = t.matchesAt address i := by
    rw [meaning_targets_isEmpty]
    rfl
  have all : t.meanings = (List.finRange t.rules.length).map fun i => t.meaning t.rules[i] := by
    rw [meanings]
    conv_lhs => rw [← List.map_getElem_finRange t.rules, List.map_map]
    rfl
  rw [matchedRules_plan, all, List.countP_map]
  exact List.countP_congr fun i _ => by rw [Function.comp_apply, rule i]

/-- The rules that a plan counts are the places of the table whose rule has the head of the message
and a target, each once, and at each of them the plan holds one run of sends. -/
theorem plan_in_runs (t : Table) (address : String) :
    let plan := t.plan address
    matchedRules plan = (List.finRange t.rules.length).countP (t.matchesAt address) ∧
      (∀ i, t.matchesAt address i = true → t.OneRun plan i) ∧
      ∀ f ∈ plan, ∃ i : Fin t.rules.length,
        t.matchesAt address i = true ∧ f.position = i ∧ f.rule = t.rules[i] :=
  ⟨t.matchedRules_plan_places address, fun _ => oneRun_plan, fun _ => matchesAt_of_mem_plan⟩

/-- Two equal rules next to each other, one without targets, one with a number that stands for none,
one with another head, and one more that matches. -/
theorem plan_in_runs_alike :
    let twin : Rule := ⟨"a", false, [⟨0⟩, ⟨7⟩, ⟨0⟩], ⟨"made", 1⟩⟩
    let t : Table := ⟨[twin, twin, ⟨"a", true, [], ⟨"made", 3⟩⟩, ⟨"a", false, [⟨7⟩], ⟨"made", 4⟩⟩,
        ⟨"b", false, [⟨0⟩], ⟨"made", 5⟩⟩, ⟨"a", true, [⟨1⟩], ⟨"made", 6⟩⟩],
      ⟨[⟨"h", 1, none⟩, ⟨"k", 2, some "/fx"⟩]⟩⟩
    matchedRules (t.plan "/a/x") = 3 ∧
      (t.matchesAt "/a/x" ⟨1, by decide⟩ = true ∧ t.OneRun (t.plan "/a/x") ⟨1, by decide⟩) ∧
      (t.plan "/a/x").map (·.position) = [0, 0, 1, 1, 5] := by
  intro twin t
  obtain ⟨count, runs, -⟩ := plan_in_runs t "/a/x"
  have second : t.matchesAt "/a/x" ⟨1, by decide⟩ = true := by decide +kernel
  exact ⟨count.trans (by decide +kernel), ⟨second, runs _ second⟩, by decide +kernel⟩

end Table

end Patchbay
