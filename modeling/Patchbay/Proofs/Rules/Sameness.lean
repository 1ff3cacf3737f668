/-
Sameness of tables. It compares the rules one by one by what they do, so the numbers of the targets do
not count, but a number without a target is told apart from none. Tables that are the same plan the
same sends, place by place, for every message, and are rendered the same.

For tables that sources leave, rendering decides sameness: each line of the text is read back as what
one rule says (`meanings_eq_of_render`), and no number of such a table lacks a target.
-/
import Patchbay.Proofs.Rules.Compiled
import Patchbay.Proofs.Rules.Render

namespace Patchbay

/-! ## Sends that are alike -/

/-- Sends of rules at the same place, to the same target and under the same path. -/
structure Forward.Alike (f g : Forward) : Prop where
  position : f.position = g.position
  target : f.target = g.target
  path : f.path = g.path

namespace Table

/-- A plan is given by what the rules of the table say and by their places. -/
theorem placed_plan (t : Table) (address : String) :
    (t.plan address).map (fun f => (f.position, f.target, f.path)) =
      (t.meanings.zipIdx.filter fun r => some r.1.head == Path.head? address).flatMap fun r =>
        (r.1.sends address).map fun send => (r.2, send) := by
  have one_rule : ∀ r : Rule × Nat,
      (t.forwards address r.2 r.1).map (fun f => (f.position, f.target, f.path)) =
        ((t.meaning r.1).sends address).map fun send => (r.2, send) := by
    intro r
    rw [← sends_forwards t address r.2 r.1]
    simp only [forwards, List.map_map]
    rfl
  have places : t.meanings.zipIdx = t.rules.zipIdx.map (Prod.map t.meaning id) := List.zipIdx_map
  calc (t.plan address).map (fun f => (f.position, f.target, f.path))
      = (t.route address).flatMap fun r =>
          ((t.meaning r.1).sends address).map fun send => (r.2, send) := by
        simp only [plan_eq_route, List.map_flatMap, one_rule]
    _ = (t.meanings.zipIdx.filter fun r => some r.1.head == Path.head? address).flatMap fun r =>
          (r.1.sends address).map fun send => (r.2, send) := by
        rw [places, List.filter_map, List.flatMap_map]
        rfl

theorem plan_alike {t u : Table} (h : t.meanings = u.meanings) (address : String) :
    List.Forall₂ Forward.Alike (t.plan address) (u.plan address) := by
  have placed : (t.plan address).map (fun f => (f.position, f.target, f.path)) =
      (u.plan address).map fun f => (f.position, f.target, f.path) := by
    rw [placed_plan, placed_plan, h]
  rw [← List.forall₂_eq_eq_eq, List.forall₂_map_left_iff, List.forall₂_map_right_iff] at placed
  refine placed.imp ?_
  intro f g same
  simp only [Prod.mk.injEq] at same
  obtain ⟨position, target, path⟩ := same
  exact ⟨position, target, path⟩

/-! ## Sameness -/

variable {t u : Table}

theorem same_iff : t.same u = true ↔ t.effects = u.effects := by
  unfold same
  exact beq_iff_eq

/-- What a rule says is what it does, but for the numbers that have no target. -/
theorem meanings_eq_effects (t : Table) :
    t.meanings = t.effects.map fun e => ⟨e.1, e.2.1, e.2.2.filterMap id⟩ := by
  unfold meanings effects
  rw [List.map_map]
  refine List.map_congr_left ?_
  intro rule _
  simp only [meaning, effect, Function.comp, List.filterMap_map]
  rfl

theorem meanings_of_same (h : t.same u = true) : t.meanings = u.meanings := by
  rw [meanings_eq_effects, meanings_eq_effects, same_iff.1 h]

theorem render_of_meanings (h : t.meanings = u.meanings) : t.render = u.render := by
  rw [render_eq, render_eq, h]

/-! ## Sameness from the rendered text -/

/-- What the rules say is read off the rendered text. -/
theorem meanings_eq_of_render (ht : ∀ r ∈ t.meanings, r.Writable) (hu : ∀ r ∈ u.meanings, r.Writable)
    (h : t.render = u.render) : t.meanings = u.meanings := by
  have read_back : ∀ v : Table, (∀ r ∈ v.meanings, r.Writable) →
      (Record.numbered 1 (lines v.render)).map (·.2) = v.meanings := by
    intro v hv
    rw [numbered_lines_render hv, List.map_map]
    exact List.zipIdx_map_fst 1 v.meanings
  rw [← read_back t ht, ← read_back u hu, h]

theorem Gathered.same_iff_render (ht : t.Gathered) (hu : u.Gathered) :
    t.same u = true ↔ t.render = u.render := by
  constructor
  · intro h
    exact render_of_meanings (meanings_of_same h)
  · intro h
    exact same_of_meanings ht.resolved hu.resolved (meanings_eq_of_render ht.writable hu.writable h)

/-- Sameness is an equivalence of all tables, and tables that are the same plan the same sends for
every message and are rendered the same. Tables that sources leave, the compiled ones among them, are
the same exactly if they are rendered the same, whatever numbers their targets have. -/
theorem same_laws :
    Equivalence (fun t u : Table => t.same u = true) ∧
      (∀ t u : Table, t.same u = true →
        (∀ address, List.Forall₂ Forward.Alike (t.plan address) (u.plan address)) ∧
          t.render = u.render) ∧
      (∀ t : Table, t.Compiled → t.Gathered) ∧
      ∀ t u : Table, t.Gathered → u.Gathered → (t.same u = true ↔ t.render = u.render) := by
  refine ⟨⟨?_, ?_, ?_⟩, ?_, fun t ht => ht.gathered, fun t u ht hu => ht.same_iff_render hu⟩
  · intro t
    exact same_iff.2 rfl
  · intro t u h
    exact same_iff.2 (same_iff.1 h).symm
  · intro t u v h k
    exact same_iff.2 ((same_iff.1 h).trans (same_iff.1 k))
  · intro t u h
    have meanings := meanings_of_same h
    exact ⟨plan_alike meanings, render_of_meanings meanings⟩

/-- Two tables of the same two rules. The second was built behind a source that failed and left a
target, so its numbers are the other way round. -/
theorem same_laws_renumbered :
    let t := (feed {} [("a", "/a + h:1 k:2/x\n/b - k:2/x")]).1
    let u := (feed {} [("a", "/c + k:2/x h"),
      ("b", "# two rules\n//a + h:+1 k:02/x\n/b/ - k:2/x\r\n")]).1
    t.rules.map (·.targets) = [[⟨0⟩, ⟨1⟩], [⟨1⟩]] ∧
      u.rules.map (·.targets) = [[⟨1⟩, ⟨0⟩], [⟨0⟩]] ∧ t.render = u.render ∧ t.same u = true ∧
        List.Forall₂ Forward.Alike (t.plan "/a/c") (u.plan "/a/c") := by
  intro t u
  have rendered : t.render = u.render := by
    decide +kernel
  obtain ⟨-, sound, -, decided⟩ := same_laws
  have same : t.same u = true := (decided t u ⟨_, rfl⟩ ⟨_, rfl⟩).2 rendered
  exact ⟨by decide +kernel, by decide +kernel, rendered, same, (sound t u same).1 "/a/c"⟩

/-- Without sources a rule may have a number that lacks a target; that is not rendered. -/
example :
    let t : Table := ⟨[⟨"a", true, [⟨0⟩], ⟨"made", 1⟩⟩], {}⟩
    let u : Table := ⟨[⟨"a", true, [], ⟨"made", 1⟩⟩], {}⟩
    t.render = u.render ∧ t.same u = false := by
  decide

end Table

end Patchbay
