/-
Reading metrics off a journal. Events touch no metric, a metric that is never set counts its
increments, and what was recorded before a part of a journal matters for the rest only through the
value that it left.
-/
import Mathlib
import Patchbay.Journal

namespace Patchbay

/-- The entry increments `m`. -/
def Entry.raises (m : Metric) : Entry → Bool
  | .increment n => decide (n = m)
  | _ => false

namespace Journal

/-- How often a metric is incremented. -/
def increments (j : Journal) (m : Metric) : Nat := j.countP (Entry.raises m)

/-- The metric is never set. -/
def Counts (j : Journal) (m : Metric) : Prop := ∀ v, .set m v ∉ j

/-- Nothing but events. -/
def Silent (j : Journal) : Prop := ∀ e ∈ j, e.metric? = none

theorem increments_append (j k : Journal) (m : Metric) :
    (j ++ k).increments m = j.increments m + k.increments m :=
  List.countP_append

theorem increments_flatMap {ι : Type} (is : List ι) (part : ι → Journal) (m : Metric) :
    increments (is.flatMap part) m = (is.map fun i => (part i).increments m).sum :=
  List.countP_flatMap

theorem events_append (j k : Journal) : events (j ++ k) = j.events ++ k.events :=
  List.filterMap_append

theorem events_flatMap {ι : Type} (is : List ι) (part : ι → Journal) :
    events (is.flatMap part) = is.flatMap fun i => (part i).events :=
  List.filterMap_flatMap ..

theorem value_append (j k : Journal) (m : Metric) :
    value (j ++ k) m = k.foldl (Entry.apply m) (j.value m) :=
  List.foldl_append

theorem Counts.append {j k : Journal} {m : Metric} (hj : j.Counts m) (hk : k.Counts m) :
    (j ++ k).Counts m := by
  intro v hv
  rcases List.mem_append.1 hv with hv | hv
  · exact hj v hv
  · exact hk v hv

theorem counts_flatMap {ι : Type} {is : List ι} {part : ι → Journal} {m : Metric}
    (h : ∀ i ∈ is, (part i).Counts m) : Counts (is.flatMap part) m := by
  intro v hv
  obtain ⟨i, hi, hv⟩ := List.mem_flatMap.1 hv
  exact h i hi v hv

theorem foldl_apply_of_counts {j : Journal} {m : Metric} (h : j.Counts m) (v : Nat) :
    j.foldl (Entry.apply m) v = v + j.increments m := by
  induction j generalizing v with
  | nil => rfl
  | cons e j ih =>
    have tail : Counts j m := fun v hv => h v (List.mem_cons_of_mem e hv)
    have first : Entry.apply m v e = v + if e.raises m then 1 else 0 := by
      cases e with
      | event e => rfl
      | increment n => by_cases hn : n = m <;> simp [Entry.apply, Entry.raises, hn]
      | set n w =>
        have other : n ≠ m := fun hn => h w (hn ▸ List.mem_cons_self ..)
        simp [Entry.apply, Entry.raises, other]
    have count : increments (e :: j) m = increments j m + if e.raises m then 1 else 0 :=
      List.countP_cons
    rw [List.foldl_cons, ih tail, first, count]
    omega

/-- A counter is the number of its increments. -/
theorem value_eq_increments {j : Journal} {m : Metric} (h : j.Counts m) :
    j.value m = j.increments m :=
  (foldl_apply_of_counts h 0).trans (Nat.zero_add _)

/-! ## Events alone -/

theorem Silent.append {j k : Journal} (hj : j.Silent) (hk : k.Silent) : (j ++ k).Silent :=
  List.forall_mem_append.2 ⟨hj, hk⟩

theorem silent_event (e : Event) : Silent [.event e] := by
  simp [Silent, Entry.metric?]

theorem Silent.foldl_apply {j : Journal} (h : j.Silent) (m : Metric) (v : Nat) :
    j.foldl (Entry.apply m) v = v := by
  induction j generalizing v with
  | nil => rfl
  | cons e j ih =>
    obtain ⟨he, tail⟩ := List.forall_mem_cons.1 h
    cases e with
    | event e => exact ih tail v
    | increment n => cases he
    | set n w => cases he

end Journal

end Patchbay
