/-
The numbers of a run of registrations. Whatever targets are registered, in whatever order and how
often, equal targets and only those get one number, a number goes on standing for its target, and
the numbers in use are those below the count of distinct targets. Targets and endpoints are listed
by their first registrations (`FirstsOf`), so the same targets in another order give the same
collection.

`Indexed` looks a target up by hash instead of searching the list. Its index is the inverse of its
list after every registration, and so it gives the same numbers.
-/
import Patchbay.Proofs.Rules.Registry
import Mathlib

namespace Patchbay.Registry

/-! ## First occurrences -/

/-- The elements of `all`, each of them once and in the order in which they occur first. -/
structure FirstsOf {α : Type} [BEq α] (all firsts : List α) : Prop where
  nodup : firsts.Nodup
  mem_iff : ∀ a, a ∈ firsts ↔ a ∈ all
  ordered : firsts.Pairwise fun a b => all.idxOf a < all.idxOf b

section Firsts

variable {α : Type} [BEq α] [LawfulBEq α]

/-- Erasing duplicates keeps the first occurrences. -/
theorem firstsOf_eraseDups (as : List α) : FirstsOf as as.eraseDups where
  nodup := nodup_eraseDups as
  mem_iff a := List.mem_eraseDups
  ordered := by
    induction as using List.reverseRecOn with
    | nil => exact List.Pairwise.nil
    | append_singleton as a ih =>
      -- what occurs before the last element occurs first where it did
      have before : as.eraseDups.Pairwise fun b c => (as ++ [a]).idxOf b < (as ++ [a]).idxOf c := by
        refine List.Pairwise.imp_of_mem ?_ ih
        intro b c hb hc less
        rw [List.mem_eraseDups] at hb hc
        rwa [List.idxOf_append_of_mem hb, List.idxOf_append_of_mem hc]
      by_cases ha : a ∈ as
      · rwa [eraseDups_concat_of_mem ha]
      · rw [eraseDups_concat_of_not_mem ha, List.pairwise_append]
        refine ⟨before, List.pairwise_singleton _ _, ?_⟩
        intro b hb c hc
        rw [List.mem_eraseDups] at hb
        rw [List.mem_singleton] at hc
        subst hc
        have early : as.idxOf b < as.length := List.idxOf_lt_length_of_mem hb
        rw [List.idxOf_append_of_mem hb, List.idxOf_append_of_notMem ha]
        omega

end Firsts

/-! ## Numbers -/

theorem length_registerAll (r : Registry) (ts : List Target) :
    (r.registerAll ts).1.length = ts.length := by
  have given := congrArg List.length (r.map_get?_registerAll ts)
  simpa using given

theorem nodup_registerAll (ts : List Target) : (registerAll {} ts).2.targets.Nodup := by
  rw [registerAll_empty_targets]
  exact nodup_eraseDups ts

variable {ts : List Target} {i j : Nat} {id id' : TargetId} {t u : Target}

/-- Every call of a run is given a number that stands for its target, whatever is called later. -/
theorem exists_number (r : Registry) (ht : ts[i]? = some t) :
    ∃ id, (r.registerAll ts).1[i]? = some id ∧
      ∀ more, ((r.registerAll ts).2.registerAll more).2.get? id = some t := by
  have hi : i < ts.length := (List.getElem?_eq_some_iff.1 ht).1
  have hnumber : i < (r.registerAll ts).1.length := by rwa [length_registerAll]
  refine ⟨_, List.getElem?_eq_getElem hnumber, ?_⟩
  intro more
  have given := congrArg (·[i]?) (r.map_get?_registerAll ts)
  simp only [List.getElem?_map, List.getElem?_eq_getElem hnumber, ht, Option.map_some,
    Option.some.injEq] at given
  rw [get?_of_extends (registerAll_extends _ more) (lt_size_of_get? given), given]

theorem get?_number (hid : (registerAll {} ts).1[i]? = some id) (ht : ts[i]? = some t) :
    (registerAll {} ts).2.get? id = some t := by
  obtain ⟨id', hid', stands⟩ := exists_number {} ht
  rw [hid] at hid'
  cases hid'
  exact stands []

/-- Two calls of a run are given the same number exactly if they register the same target. -/
theorem number_eq_iff (hid : (registerAll {} ts).1[i]? = some id)
    (hid' : (registerAll {} ts).1[j]? = some id') (ht : ts[i]? = some t) (hu : ts[j]? = some u) :
    id = id' ↔ t = u := by
  have first := get?_number hid ht
  have second := get?_number hid' hu
  constructor
  · rintro rfl
    exact Option.some.inj (first.symm.trans second)
  · rintro rfl
    exact get?_inj (nodup_registerAll ts) first second

/-- The numbers that were given are those below the size. -/
theorem mem_registerAll_iff : id ∈ (registerAll {} ts).1 ↔ id.index < (registerAll {} ts).2.size := by
  constructor
  · exact lt_size_of_mem_registerAll
  · intro h
    rcases registerAll_new h with none_before | given
    · exact absurd none_before (Nat.not_lt_zero _)
    · exact given

/-! ## Lists of targets and endpoints -/

theorem firstsOf_targets (ts : List Target) : FirstsOf ts (registerAll {} ts).2.targets := by
  rw [registerAll_empty_targets]
  exact firstsOf_eraseDups ts

theorem firstsOf_endpoints (ts : List Target) :
    FirstsOf (ts.map Target.endpoint) (registerAll {} ts).2.endpoints := by
  rw [endpoints, registerAll_empty_targets, eraseDups_map_eraseDups]
  exact firstsOf_eraseDups _

theorem size_registerAll (ts : List Target) : (registerAll {} ts).2.size = ts.toFinset.card := by
  have same : (registerAll {} ts).2.targets.toFinset = ts.toFinset := by
    ext t
    rw [List.mem_toFinset, List.mem_toFinset, (firstsOf_targets ts).mem_iff]
  rw [← same, List.toFinset_card_of_nodup (nodup_registerAll ts)]
  rfl

/-! ## Looking up by hash -/

deriving instance Hashable for Target

/-- A list of targets and the number of each of them by hash. -/
structure Indexed where
  targets : List Target := []
  index : Std.HashMap Target TargetId := {}

namespace Indexed

def register (r : Indexed) (t : Target) : TargetId × Indexed :=
  match r.index[t]? with
  | some id => (id, r)
  | none =>
    let id : TargetId := ⟨r.targets.length⟩
    (id, ⟨r.targets ++ [t], r.index.insert t id⟩)

/-- Registers targets from left to right. -/
def registerAll (r : Indexed) : List Target → List TargetId × Indexed
  | [] => ([], r)
  | t :: rest =>
    let (id, r) := r.register t
    let (ids, r) := r.registerAll rest
    (id :: ids, r)

/-- The index gives a number for a target exactly where the list has the target at that number. -/
def Inverse (r : Indexed) : Prop :=
  ∀ (t : Target) (id : TargetId), r.index[t]? = some id ↔ r.targets[id.index]? = some t

theorem inverse_empty : Inverse {} := by
  intro t id
  simp

variable {r : Indexed}

theorem Inverse.nodup (h : r.Inverse) : r.targets.Nodup := by
  rw [List.nodup_iff_getElem?_ne_getElem?]
  intro i j hij hj same
  have hi : i < r.targets.length := Nat.lt_trans hij hj
  rw [List.getElem?_eq_getElem hi] at same
  have first := (h _ ⟨i⟩).2 (List.getElem?_eq_getElem hi)
  have second := (h _ ⟨j⟩).2 same.symm
  rw [first] at second
  cases second
  exact Nat.lt_irrefl _ hij

theorem Inverse.not_mem (h : r.Inverse) {t : Target} (unknown : r.index[t]? = none) :
    t ∉ r.targets := by
  intro ht
  obtain ⟨i, hi, hget⟩ := List.mem_iff_getElem.1 ht
  have known := (h t ⟨i⟩).2 (List.getElem?_eq_some_iff.2 ⟨hi, hget⟩)
  rw [unknown] at known
  cases known

/-- Registering keeps list and index inverse of each other. -/
theorem Inverse.register (h : r.Inverse) (t : Target) : (r.register t).2.Inverse := by
  unfold Indexed.register
  split
  · exact h
  · rename_i unknown
    have absent := h.not_mem unknown
    intro u id
    show (r.index.insert t ⟨r.targets.length⟩)[u]? = some id ↔
      (r.targets ++ [t])[id.index]? = some u
    rw [Std.HashMap.getElem?_insert]
    by_cases inside : id.index < r.targets.length
    · -- an old place, which the new target does not have
      rw [List.getElem?_append_left inside]
      by_cases htu : t = u
      · subst htu
        have elsewhere : r.targets[id.index]? ≠ some t := fun hget =>
          absent (List.mem_of_getElem? hget)
        have moved : (⟨r.targets.length⟩ : TargetId) ≠ id := by
          rintro rfl
          exact Nat.lt_irrefl _ inside
        simp [elsewhere, moved]
      · simp [htu, h u id]
    · -- behind the old list stands the new target and nothing else
      have old : r.index[u]? ≠ some id := fun hget =>
        inside (List.getElem?_eq_some_iff.1 ((h u id).1 hget)).1
      rw [List.getElem?_append_right (Nat.le_of_not_lt inside)]
      by_cases htu : t = u
      · subst htu
        rcases id with ⟨k⟩
        simp only [beq_self_eq_true, if_true, Option.some.injEq, TargetId.mk.injEq,
          List.getElem?_singleton] at inside ⊢
        constructor
        · rintro rfl
          simp
        · intro hget
          by_contra hne
          rw [if_neg (by omega)] at hget
          cases hget
      · simp only [beq_iff_eq, htu, if_false, old, List.getElem?_singleton, false_iff]
        split <;> simp [htu]

/-- A registry that searches its list does the same. -/
theorem Inverse.register_eq (h : r.Inverse) (t : Target) :
    Registry.register ⟨r.targets⟩ t = ((r.register t).1, ⟨(r.register t).2.targets⟩) := by
  unfold Indexed.register
  split
  · rename_i id known
    exact register_of_get? h.nodup ((h t id).1 known)
  · rename_i unknown
    unfold Registry.register
    rw [List.idxOf?_eq_none_iff.2 (h.not_mem unknown)]

theorem Inverse.registerAll (h : r.Inverse) (ts : List Target) : (r.registerAll ts).2.Inverse := by
  induction ts generalizing r with
  | nil => exact h
  | cons t ts ih => exact ih (h.register t)

theorem Inverse.registerAll_eq (h : r.Inverse) (ts : List Target) :
    Registry.registerAll ⟨r.targets⟩ ts = ((r.registerAll ts).1, ⟨(r.registerAll ts).2.targets⟩) := by
  induction ts generalizing r with
  | nil => rfl
  | cons t ts ih =>
    rw [registerAll_cons, h.register_eq t]
    simp only [ih (h.register t)]
    rfl

end Indexed

/-! ## Whole runs -/

/-- What is known of a registry and of the numbers that it gave when `ts` were registered. -/
structure Numbered (ts : List Target) (ids : List TargetId) (r : Registry) : Prop where
  one_each : ids.length = ts.length
  same_iff : ∀ i < ts.length, ∀ j < ts.length, ids[i]? = ids[j]? ↔ ts[i]? = ts[j]?
  stands : ∀ (i : Nat) (id : TargetId), ids[i]? = some id →
    ∀ more, (r.registerAll more).2.get? id = ts[i]?
  given_iff : ∀ id, id ∈ ids ↔ id.index < r.size
  size_eq : r.size = ts.toFinset.card
  targets : FirstsOf ts r.targets
  endpoints : FirstsOf (ts.map Target.endpoint) r.endpoints

theorem numbered_registerAll (ts : List Target) :
    Numbered ts (registerAll {} ts).1 (registerAll {} ts).2 where
  one_each := length_registerAll {} ts
  same_iff i hi j hj := by
    have ht : ts[i]? = some ts[i] := List.getElem?_eq_getElem hi
    have hu : ts[j]? = some ts[j] := List.getElem?_eq_getElem hj
    obtain ⟨id, hid, -⟩ := exists_number {} ht
    obtain ⟨id', hid', -⟩ := exists_number {} hu
    rw [hid, hid', ht, hu, Option.some.injEq, Option.some.injEq]
    exact number_eq_iff hid hid' ht hu
  stands i id hid more := by
    have hi : i < ts.length := by
      rw [← length_registerAll {} ts]
      exact (List.getElem?_eq_some_iff.1 hid).1
    obtain ⟨id', hid', stands⟩ := exists_number {} (List.getElem?_eq_getElem hi)
    rw [hid] at hid'
    cases hid'
    rw [stands more, List.getElem?_eq_getElem hi]
  given_iff _ := mem_registerAll_iff
  size_eq := size_registerAll ts
  targets := firstsOf_targets ts
  endpoints := firstsOf_endpoints ts

/-- The same targets in another order, and repeated in another way, leave the same collection. -/
theorem registerAll_perm {ts us : List Target} (h : ∀ t, t ∈ us ↔ t ∈ ts) :
    (registerAll {} us).2.targets.Perm (registerAll {} ts).2.targets := by
  rw [List.perm_ext_iff_of_nodup (nodup_registerAll us) (nodup_registerAll ts)]
  intro t
  rw [(firstsOf_targets us).mem_iff, (firstsOf_targets ts).mem_iff, h t]

/-- Any run of registrations gives one number to each distinct target, from zero on and for good, and
lists targets and endpoints by their first registrations; what is listed depends on the set of the
targets alone. A registry with an index by hash gives the same numbers, and its index stays the
inverse of its list. -/
theorem registerAll_laws (ts : List Target) :
    let ids := (registerAll {} ts).1
    let r := (registerAll {} ts).2
    Numbered ts ids r ∧
      (∀ us : List Target, (∀ t, t ∈ us ↔ t ∈ ts) →
        (registerAll {} us).2.size = r.size ∧
          (∀ t, t ∈ (registerAll {} us).2.targets ↔ t ∈ r.targets) ∧
          ∀ e, e ∈ (registerAll {} us).2.endpoints ↔ e ∈ r.endpoints) ∧
      (Indexed.registerAll {} ts).1 = ids ∧ (Indexed.registerAll {} ts).2.targets = r.targets ∧
        (Indexed.registerAll {} ts).2.Inverse := by
  intro ids r
  have lockstep := Indexed.inverse_empty.registerAll_eq ts
  refine ⟨numbered_registerAll ts, ?_, ?_, ?_, Indexed.inverse_empty.registerAll ts⟩
  · intro us same
    have shuffled := registerAll_perm same
    refine ⟨shuffled.length_eq, fun t => shuffled.mem_iff, fun e => ?_⟩
    rw [(firstsOf_endpoints us).mem_iff, (firstsOf_endpoints ts).mem_iff, List.mem_map, List.mem_map]
    simp only [same]
  · exact (congrArg Prod.fst lockstep).symm
  · exact (congrArg (·.2.targets) lockstep).symm

/-- Empty hosts, port zero and an empty path are targets like any other, and an empty path is not the
absence of one. -/
theorem registerAll_laws_shuffled :
    let a : Target := ⟨"", 0, none⟩
    let b : Target := ⟨"", 0, some ""⟩
    let c : Target := ⟨"h", 1, some "/x"⟩
    let r := (registerAll {} [a, b, a, c]).2
    let s := (registerAll {} [c, c, a, b, b]).2
    r.targets = [a, b, c] ∧ s.targets = [c, a, b] ∧ (∀ t, t ∈ [c, c, a, b, b] ↔ t ∈ [a, b, a, c]) ∧
      s.size = r.size ∧ (∀ t, t ∈ s.targets ↔ t ∈ r.targets) ∧
        ∀ e, e ∈ s.endpoints ↔ e ∈ r.endpoints := by
  intro a b c r s
  have same : ∀ t, t ∈ [c, c, a, b, b] ↔ t ∈ [a, b, a, c] := by
    intro t
    simp only [List.mem_cons, List.not_mem_nil, or_false]
    tauto
  obtain ⟨-, shuffled, -⟩ := registerAll_laws [a, b, a, c]
  exact ⟨by decide, by decide, same, shuffled _ same⟩

end Patchbay.Registry
