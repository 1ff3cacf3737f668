/-
Registries only grow: a number stands for its target for good, registering gives numbers that
resolve to what was registered, and every new number is one of those that were given. A registry
holds each target once, in the order of the first registrations, so a target has one number.
-/
import Patchbay.Registry
import Mathlib.Data.List.Infix

namespace Patchbay.Registry

theorem register_extends (r : Registry) (t : Target) : r.targets <+: (r.register t).2.targets := by
  unfold register
  split
  · exact List.prefix_refl _
  · exact List.prefix_append _ _

theorem get?_register (r : Registry) (t : Target) :
    (r.register t).2.get? (r.register t).1 = some t := by
  unfold register get?
  split
  · rename_i i hi
    obtain ⟨h, ht, -⟩ := List.idxOf?_eq_some_iff.1 hi
    rw [List.getElem?_eq_getElem h, ht]
  · simp

theorem register_new {r : Registry} {t : Target} {i : Nat} (hi : i < (r.register t).2.size) :
    i < r.size ∨ (r.register t).1 = ⟨i⟩ := by
  unfold register size at *
  split at hi
  · exact .inl hi
  · rename_i h
    simp only [List.length_append, List.length_singleton, TargetId.mk.injEq] at hi ⊢
    omega

theorem size_le_of_extends {r s : Registry} (h : r.targets <+: s.targets) : r.size ≤ s.size :=
  h.length_le

/-- A number that resolves goes on resolving to the same target. -/
theorem get?_of_extends {r s : Registry} (h : r.targets <+: s.targets) {id : TargetId}
    (hid : id.index < r.size) : s.get? id = r.get? id := by
  obtain ⟨more, hs⟩ := h
  unfold get?
  rw [← hs, List.getElem?_append_left hid]

theorem exists_get? {r : Registry} {id : TargetId} (hid : id.index < r.size) :
    ∃ t, r.get? id = some t :=
  ⟨_, List.getElem?_eq_getElem hid⟩

theorem lt_size_of_get? {r : Registry} {id : TargetId} {t : Target} (h : r.get? id = some t) :
    id.index < r.size :=
  (List.getElem?_eq_some_iff.1 h).1

/-! ## Registering several targets -/

theorem registerAll_cons (r : Registry) (t : Target) (ts : List Target) :
    r.registerAll (t :: ts) =
      ((r.register t).1 :: ((r.register t).2.registerAll ts).1,
        ((r.register t).2.registerAll ts).2) := rfl

theorem registerAll_append (r : Registry) (ts us : List Target) :
    (r.registerAll (ts ++ us)).2 = ((r.registerAll ts).2.registerAll us).2 := by
  induction ts generalizing r with
  | nil => rfl
  | cons t ts ih => rw [List.cons_append, registerAll_cons, registerAll_cons]; exact ih _

theorem registerAll_extends (r : Registry) (ts : List Target) :
    r.targets <+: (r.registerAll ts).2.targets := by
  induction ts generalizing r with
  | nil => exact List.prefix_refl _
  | cons t ts ih => exact (r.register_extends t).trans (ih _)

/-- The given numbers resolve to the registered targets, one by one. -/
theorem map_get?_registerAll (r : Registry) (ts : List Target) :
    (r.registerAll ts).1.map (r.registerAll ts).2.get? = ts.map some := by
  induction ts generalizing r with
  | nil => rfl
  | cons t ts ih =>
    have first := get?_register r t
    rw [registerAll_cons, List.map_cons, List.map_cons, ih,
      get?_of_extends (registerAll_extends _ ts) (lt_size_of_get? first), first]

/-- A number is an old one or one that was given. -/
theorem registerAll_new {r : Registry} {ts : List Target} {i : Nat}
    (hi : i < (r.registerAll ts).2.size) : i < r.size ∨ ⟨i⟩ ∈ (r.registerAll ts).1 := by
  induction ts generalizing r with
  | nil => exact .inl hi
  | cons t ts ih =>
    rw [registerAll_cons] at hi ⊢
    rcases ih hi with h | h
    · rcases register_new h with h | h
      · exact .inl h
      · exact .inr (h ▸ List.mem_cons_self ..)
    · exact .inr (List.mem_cons_of_mem _ h)

theorem lt_size_of_mem_registerAll {r : Registry} {ts : List Target} {id : TargetId}
    (h : id ∈ (r.registerAll ts).1) : id.index < (r.registerAll ts).2.size := by
  have hm : (r.registerAll ts).2.get? id ∈ ts.map some := by
    rw [← map_get?_registerAll]
    exact List.mem_map_of_mem h
  obtain ⟨t, -, ht⟩ := List.mem_map.1 hm
  exact lt_size_of_get? ht.symm

/-! ## First registrations -/

theorem nodup_eraseDups {α : Type} [BEq α] [LawfulBEq α] : ∀ as : List α, as.eraseDups.Nodup
  | [] => List.nodup_nil
  | a :: as => by
    rw [List.eraseDups_cons, List.nodup_cons]
    refine ⟨fun ha => ?_, nodup_eraseDups (as.filter fun b => !b == a)⟩
    have left := List.mem_eraseDups.1 ha
    simp at left
termination_by as => as.length
decreasing_by exact Nat.lt_succ_of_le (List.length_filter_le ..)

section Concat

variable {α : Type} [BEq α] [LawfulBEq α] {as : List α} {a : α}

theorem eraseDups_concat_of_mem (h : a ∈ as) : (as ++ [a]).eraseDups = as.eraseDups := by
  rw [List.eraseDups_append]
  simp [List.removeAll, h]

theorem eraseDups_concat_of_not_mem (h : a ∉ as) :
    (as ++ [a]).eraseDups = as.eraseDups ++ [a] := by
  rw [List.eraseDups_append]
  simp [List.removeAll, h, List.eraseDups_cons]

/-- An element that has not been there before keeps its place behind those that have. -/
theorem eraseDups_append_cons_of_not_mem (h : a ∉ as) (later : List α) :
    ∃ others, (as ++ a :: later).eraseDups = as.eraseDups ++ a :: others := by
  rw [List.eraseDups_append]
  simp [List.removeAll, h, List.eraseDups_cons]

/-- Duplicates may be erased before a list is mapped as well as after. -/
theorem eraseDups_map_eraseDups {β : Type} [BEq β] [LawfulBEq β] (f : α → β) (as : List α) :
    (as.eraseDups.map f).eraseDups = (as.map f).eraseDups := by
  induction as using List.reverseRecOn with
  | nil => rfl
  | append_singleton as a ih =>
    rw [List.map_append, List.map_singleton]
    by_cases ha : a ∈ as
    · rw [eraseDups_concat_of_mem ha, eraseDups_concat_of_mem (List.mem_map_of_mem ha), ih]
    · rw [eraseDups_concat_of_not_mem ha, List.map_append, List.map_singleton]
      -- a new element may still be mapped to an old value
      have same : f a ∈ as.eraseDups.map f ↔ f a ∈ as.map f := by
        simp [List.mem_eraseDups]
      by_cases hf : f a ∈ as.map f
      · rw [eraseDups_concat_of_mem (same.2 hf), eraseDups_concat_of_mem hf, ih]
      · rw [eraseDups_concat_of_not_mem (mt same.1 hf), eraseDups_concat_of_not_mem hf, ih]

end Concat

theorem register_targets {r : Registry} {seen : List Target} (h : r.targets = seen.eraseDups)
    (t : Target) : (r.register t).2.targets = (seen ++ [t]).eraseDups := by
  have known : t ∈ r.targets ↔ t ∈ seen := by rw [h, List.mem_eraseDups]
  unfold register
  split
  · rename_i i hi
    have ht : t ∈ seen := by
      rw [← known]
      by_contra absent
      rw [List.idxOf?_eq_none_iff.2 absent] at hi
      cases hi
    rw [eraseDups_concat_of_mem ht]
    exact h
  · rename_i hnone
    have ht : t ∉ seen := fun ht => List.idxOf?_eq_none_iff.1 hnone (known.2 ht)
    rw [eraseDups_concat_of_not_mem ht, ← h]

/-- A registry holds the targets that were ever registered, in the order in which each of them was
registered first. -/
theorem registerAll_targets {r : Registry} {seen : List Target} (h : r.targets = seen.eraseDups)
    (ts : List Target) : (r.registerAll ts).2.targets = (seen ++ ts).eraseDups := by
  induction ts generalizing r seen with
  | nil => rw [List.append_nil]; exact h
  | cons t ts ih =>
    rw [registerAll_cons, ih (register_targets h t), List.append_assoc, List.singleton_append]

theorem registerAll_empty_targets (ts : List Target) :
    (registerAll {} ts).2.targets = ts.eraseDups := by
  have none_seen : ({} : Registry).targets = ([] : List Target).eraseDups := rfl
  exact registerAll_targets none_seen ts

/-- The number of a known target is given again, and nothing is added. -/
theorem register_of_get? {r : Registry} (distinct : r.targets.Nodup) {id : TargetId} {t : Target}
    (h : r.get? id = some t) : r.register t = (id, r) := by
  obtain ⟨hid, ht⟩ := List.getElem?_eq_some_iff.1 h
  have first : r.targets.idxOf? t = some id.index := by
    rw [List.idxOf?_eq_some_iff]
    refine ⟨hid, ht, fun j hj same => ?_⟩
    have := (List.getElem_inj distinct).1 (same.trans ht.symm)
    omega
  simp only [register, first]

theorem get?_inj {r : Registry} (distinct : r.targets.Nodup) {i j : TargetId} {t : Target}
    (hi : r.get? i = some t) (hj : r.get? j = some t) : i = j := by
  have both := (register_of_get? distinct hi).symm.trans (register_of_get? distinct hj)
  exact (Prod.mk.inj both).1

end Patchbay.Registry
