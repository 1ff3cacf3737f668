/-
Plans: the sends of a message are those of the rules with its head, in the order of the table, and
for a rule those of its targets in the order in which it names them. The count of matched rules goes
by the places of the rules, so it counts each rule that has a target once.
-/
import Patchbay.Plan
import Patchbay.Proofs.Rules.Compile

namespace Patchbay

/-! ## Sends -/

/-- What one rule sends where. -/
def Record.Meaning.sends (r : Record.Meaning) (address : String) : List (Target × String) :=
  r.targets.map fun target => (target, outboundPath r.truncate target address)

namespace Table

/-- The places and the rules that a message to `address` goes through. -/
def route (t : Table) (address : String) : List (Rule × Nat) :=
  t.rules.zipIdx.filter fun r => some r.1.head == Path.head? address

theorem plan_eq_route (t : Table) (address : String) :
    t.plan address = (t.route address).flatMap fun r => t.forwards address r.2 r.1 := by
  unfold plan route
  cases Path.head? address with
  | none => simp
  | some head => simp

theorem sends_forwards (t : Table) (address : String) (position : Nat) (rule : Rule) :
    (t.forwards address position rule).map (fun f => (f.target, f.path)) =
      (t.meaning rule).sends address := by
  simp only [forwards, List.map_map, Record.Meaning.sends, meaning]
  rfl

theorem map_fst_route (t : Table) (address : String) :
    (t.route address).map (·.1) = t.rules.filter fun rule => some rule.head == Path.head? address := by
  calc (t.route address).map (·.1)
      = (t.rules.zipIdx.map (·.1)).filter fun rule => some rule.head == Path.head? address := by
        rw [List.filter_map]
        rfl
    _ = t.rules.filter fun rule => some rule.head == Path.head? address := by
        rw [List.zipIdx_map_fst]

/-- The targets and the paths of a plan are given by what the matching rules say. -/
theorem sends_plan (t : Table) (address : String) :
    (t.plan address).map (fun f => (f.target, f.path)) =
      (t.meanings.filter fun r => some r.head == Path.head? address).flatMap (·.sends address) := by
  calc (t.plan address).map (fun f => (f.target, f.path))
      = (t.route address).flatMap fun r => (t.meaning r.1).sends address := by
        simp only [plan_eq_route, List.map_flatMap, sends_forwards]
    _ = ((t.route address).map (·.1)).flatMap fun rule => (t.meaning rule).sends address := by
        rw [List.flatMap_map]
    _ = (t.meanings.filter fun r => some r.head == Path.head? address).flatMap
          (·.sends address) := by
        rw [map_fst_route, meanings, List.filter_map, List.flatMap_map]
        rfl

end Table

/-! ## Matched rules -/

/-- A run of sends of one rule counts once, whatever other rules follow. -/
theorem matchedRules_append {sends rest : List Forward} {n : Nat} (hne : sends ≠ [])
    (here : ∀ f ∈ sends, f.position = n) (elsewhere : ∀ f ∈ rest, f.position ≠ n) :
    matchedRules (sends ++ rest) = matchedRules rest + 1 := by
  induction sends with
  | nil => exact absurd rfl hne
  | cons f fs ih =>
    have hf : f.position = n := here f (List.mem_cons_self ..)
    cases fs with
    | nil =>
      -- the last send of the run meets one of another rule, if any
      cases rest with
      | nil => rfl
      | cons g gs =>
        have hg : g.position ≠ n := elsewhere g (List.mem_cons_self ..)
        rw [List.singleton_append, matchedRules, if_neg (hf ▸ Ne.symm hg)]
    | cons g gs =>
      have hg : g.position = n := here g (by simp)
      have later := ih (by simp) fun k hk => here k (List.mem_cons_of_mem f hk)
      rw [List.cons_append, List.cons_append, matchedRules, if_pos (hf.trans hg.symm)]
      exact later

/-- Runs at distinct places are counted one by one; an empty run is none. -/
theorem matchedRules_flatMap {ι : Type} {runs : List ι} {place : ι → Nat}
    {sends : ι → List Forward} (here : ∀ r ∈ runs, ∀ f ∈ sends r, f.position = place r)
    (distinct : (runs.map place).Nodup) :
    matchedRules (runs.flatMap sends) = runs.countP fun r => !(sends r).isEmpty := by
  induction runs with
  | nil => rfl
  | cons r rs ih =>
    obtain ⟨hr, hrs⟩ := List.nodup_cons.1 distinct
    have here_rs : ∀ k ∈ rs, ∀ f ∈ sends k, f.position = place k :=
      fun k hk => here k (List.mem_cons_of_mem r hk)
    have tail := ih here_rs hrs
    rw [List.flatMap_cons, List.countP_cons]
    by_cases hne : sends r = []
    · simp [hne, tail]
    · have elsewhere : ∀ f ∈ rs.flatMap sends, f.position ≠ place r := by
        intro f hf hplace
        obtain ⟨k, hk, hfk⟩ := List.mem_flatMap.1 hf
        exact hr (List.mem_map.2 ⟨k, hk, (here_rs k hk f hfk).symm.trans hplace⟩)
      rw [matchedRules_append hne (here r (List.mem_cons_self ..)) elsewhere, tail]
      simp [hne]

namespace Table

theorem nodup_places (t : Table) (address : String) : ((t.route address).map (·.2)).Nodup := by
  have all : (t.rules.zipIdx.map (·.2)).Nodup := by
    rw [List.zipIdx_map_snd]
    exact List.nodup_range'
  exact (List.filter_sublist.map _).nodup all

/-- The matched rules are those with the head of the message and with a target. -/
theorem matchedRules_plan (t : Table) (address : String) :
    matchedRules (t.plan address) =
      t.meanings.countP fun r => (some r.head == Path.head? address) && !r.targets.isEmpty := by
  have here : ∀ r ∈ t.route address, ∀ f ∈ t.forwards address r.2 r.1, f.position = r.2 := by
    intro r _ f hf
    obtain ⟨target, -, rfl⟩ := List.mem_map.1 hf
    rfl
  rw [plan_eq_route, matchedRules_flatMap here (t.nodup_places address)]
  calc (t.route address).countP (fun r => !(t.forwards address r.2 r.1).isEmpty)
      = (t.route address).countP fun r => !(t.meaning r.1).targets.isEmpty := by
        simp [forwards, meaning]
    _ = ((t.route address).map (·.1)).countP fun rule => !(t.meaning rule).targets.isEmpty := by
        rw [List.countP_map]
        rfl
    _ = t.meanings.countP fun r =>
          (some r.head == Path.head? address) && !r.targets.isEmpty := by
        rw [map_fst_route, List.countP_filter, meanings, List.countP_map]
        refine List.countP_congr fun rule _ => ?_
        simp [meaning, and_comm]

end Table

end Patchbay
