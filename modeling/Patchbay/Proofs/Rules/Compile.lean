/-
Compiling: a text gives a table if none of its lines is a faulty record, and then the table is that
of its records, one rule for each in their order. Whatever is registered later, a rule goes on
meaning what its record asked for, and no number of the registry is left without a rule.

`Record.numbered` are the records of a text, `Table.addRecords` adds them, and `Table.meanings` is
what the rules of a table say without their numbers.
-/
import Patchbay.Proofs.Rules.Record
import Patchbay.Proofs.Rules.Registry
import Patchbay.Table

namespace Patchbay

namespace Record

/-- The records among lines, each with the number of its line; that of the first line is `n`. -/
def numbered (n : Nat) : List (List Char) → List (Nat × Meaning)
  | [] => []
  | line :: rest => match read line with
    | .rule head truncate targets => (n, ⟨head, truncate, targets⟩) :: numbered (n + 1) rest
    | _ => numbered (n + 1) rest

/-- The line is blank or a record without a fault. -/
def IsSound (line : List Char) : Prop := ∀ fault targets, read line ≠ .faulty fault targets

theorem numbered_writable {n : Nat} {lines : List (List Char)} :
    ∀ r ∈ numbered n lines, r.2.Writable := by
  induction lines generalizing n with
  | nil => simp [numbered]
  | cons line rest ih =>
    intro r hr
    unfold numbered at hr
    split at hr
    · rename_i hread
      rcases List.mem_cons.1 hr with rfl | hr
      · exact writable_of_read hread
      · exact ih r hr
    · exact ih r hr

/-- The canonical lines of records are these records again, numbered without a gap. -/
theorem numbered_texts {rs : List Meaning} (h : ∀ r ∈ rs, r.Writable) (n : Nat) :
    numbered n (rs.map fun r => r.text.toList) = (rs.zipIdx n).map fun r => (r.2, r.1) := by
  induction rs generalizing n with
  | nil => rfl
  | cons r rs ih =>
    have hr : r.Writable := h r (List.mem_cons_self ..)
    rw [List.map_cons, numbered, hr.read_text, List.zipIdx_cons, List.map_cons,
      ih fun s hs => h s (List.mem_cons_of_mem _ hs)]

theorem numbered_append {n : Nat} {lines more : List (List Char)} :
    numbered n (lines ++ more) = numbered n lines ++ numbered (n + lines.length) more := by
  induction lines generalizing n with
  | nil => rfl
  | cons line rest ih =>
    rw [List.cons_append, numbered, numbered, ih, List.length_cons,
      show n + 1 + rest.length = n + (rest.length + 1) by omega]
    split <;> rfl

/-! ## Records as fields -/

/-- The fields of every record of a text; lines without a field are none. -/
def ofText (text : String) : List (List String) :=
  ((Table.lines text).map fields).filter (!·.isEmpty)

/-- A record with the fields `fs` asks for `r`. -/
def Asks (fs : List String) (r : Meaning) : Prop :=
  readFields fs = .rule r.head r.truncate r.targets

theorem readFields_eq_blank_iff {fs : List String} : readFields fs = .blank ↔ fs = [] := by
  constructor
  · intro h
    unfold readFields at h
    split at h
    · rfl
    · split at h
      · cases h
      · split at h <;> cases h
    · cases h
  · rintro rfl
    rfl

/-- The records of sound lines ask for the rules that are read off them, in order. -/
theorem asks_numbered {lines : List (List Char)} (h : ∀ line ∈ lines, IsSound line) (n : Nat) :
    List.Forall₂ Asks ((lines.map fields).filter (!·.isEmpty)) ((numbered n lines).map (·.2)) := by
  induction lines generalizing n with
  | nil => exact .nil
  | cons line rest ih =>
    have later := ih (fun l hl => h l (List.mem_cons_of_mem line hl)) (n + 1)
    cases hread : read line with
    | blank =>
      have none_left : fields line = [] := readFields_eq_blank_iff.1 hread
      simp only [numbered, hread]
      rwa [List.map_cons, none_left, List.filter_cons_of_neg (by simp)]
    | rule head truncate targets =>
      have some_left : fields line ≠ [] := by
        intro hnil
        rw [read, readFields_eq_blank_iff.2 hnil] at hread
        cases hread
      simp only [numbered, hread]
      rw [List.map_cons, List.filter_cons_of_pos (by simpa using some_left)]
      exact .cons hread later
    | faulty fault targets => exact absurd hread (h line (List.mem_cons_self ..) fault targets)

end Record

namespace Table

/-! ## Meaning -/

/-- What a rule says. -/
def meaning (t : Table) (rule : Rule) : Record.Meaning :=
  ⟨rule.head, rule.truncate, rule.targets.filterMap t.target?⟩

def meanings (t : Table) : List Record.Meaning := t.rules.map t.meaning

theorem renderRule_eq (t : Table) (rule : Rule) : t.renderRule rule = (t.meaning rule).text := rfl

/-- A table is rendered from what its rules say. -/
theorem render_eq (t : Table) : t.render = String.join (t.meanings.map fun r => r.text ++ "\n") := by
  simp only [render, meanings, List.map_map, renderRule_eq]
  rfl

/-- Every number of a rule has a target. -/
def Resolved (t : Table) : Prop :=
  ∀ rule ∈ t.rules, ∀ id ∈ rule.targets, id.index < t.registry.size

/-- Every number of the registry stands in a rule. -/
def Covered (t : Table) : Prop :=
  ∀ i < t.registry.size, ∃ rule ∈ t.rules, ⟨i⟩ ∈ rule.targets

theorem map_target?_of_lt {t : Table} {ids : List TargetId}
    (h : ∀ id ∈ ids, id.index < t.registry.size) :
    ids.map t.target? = (ids.filterMap t.target?).map some := by
  induction ids with
  | nil => rfl
  | cons id ids ih =>
    obtain ⟨u, hu⟩ := Registry.exists_get? (h id (List.mem_cons_self ..))
    have hid : t.target? id = some u := hu
    rw [List.map_cons, List.filterMap_cons_some hid, List.map_cons, hid,
      ih fun k hk => h k (List.mem_cons_of_mem _ hk)]

theorem Resolved.effects_eq {t : Table} (h : t.Resolved) :
    t.effects = t.meanings.map fun r => (r.head, r.truncate, r.targets.map some) := by
  simp only [effects, meanings, List.map_map]
  refine List.map_congr_left fun rule hr => ?_
  simp only [effect, Function.comp, meaning, map_target?_of_lt (h rule hr)]

/-- Tables whose rules say the same are the same, whatever the numbers. -/
theorem same_of_meanings {t u : Table} (ht : t.Resolved) (hu : u.Resolved)
    (h : t.meanings = u.meanings) : t.same u = true := by
  rw [same, ht.effects_eq, hu.effects_eq, h, beq_self_eq_true]

/-! ## Adding records -/

def addRecord (file : String) (t : Table) (r : Nat × Record.Meaning) : Table :=
  (t.addReading ⟨file, r.1⟩ (.rule r.2.head r.2.truncate r.2.targets)).1

def addRecords (file : String) (t : Table) (rs : List (Nat × Record.Meaning)) : Table :=
  rs.foldl (addRecord file) t

theorem addRecord_eq (file : String) (t : Table) (r : Nat × Record.Meaning) :
    t.addRecord file r =
      ⟨t.rules ++ [⟨r.2.head, r.2.truncate, (t.registry.registerAll r.2.targets).1, ⟨file, r.1⟩⟩],
        (t.registry.registerAll r.2.targets).2⟩ := rfl

theorem addRecords_cons (file : String) (t : Table) (r : Nat × Record.Meaning)
    (rs : List (Nat × Record.Meaning)) :
    t.addRecords file (r :: rs) = (t.addRecord file r).addRecords file rs := rfl

theorem meaning_of_extends {t u : Table} (h : t.registry.targets <+: u.registry.targets)
    {rule : Rule} (hr : ∀ id ∈ rule.targets, id.index < t.registry.size) :
    u.meaning rule = t.meaning rule := by
  unfold meaning
  congr 1
  exact List.filterMap_congr fun id hid => Registry.get?_of_extends h (hr id hid)

theorem addRecord_resolved {file : String} {t : Table} (r : Nat × Record.Meaning)
    (h : t.Resolved) : (t.addRecord file r).Resolved := by
  rw [addRecord_eq]
  intro rule hrule id hid
  rcases List.mem_append.1 hrule with hrule | hrule
  · have grown := Registry.size_le_of_extends (t.registry.registerAll_extends r.2.targets)
    exact Nat.lt_of_lt_of_le (h rule hrule id hid) grown
  · rw [List.mem_singleton] at hrule
    subst hrule
    exact Registry.lt_size_of_mem_registerAll hid

theorem addRecord_covered {file : String} {t : Table} (r : Nat × Record.Meaning)
    (h : t.Covered) : (t.addRecord file r).Covered := by
  rw [addRecord_eq]
  intro i hi
  rcases Registry.registerAll_new hi with hi | hi
  · obtain ⟨rule, hrule, hid⟩ := h i hi
    exact ⟨rule, List.mem_append_left _ hrule, hid⟩
  · exact ⟨_, List.mem_append_right _ (List.mem_singleton_self _), hi⟩

theorem addRecord_meanings {file : String} {t : Table} (r : Nat × Record.Meaning)
    (h : t.Resolved) : (t.addRecord file r).meanings = t.meanings ++ [r.2] := by
  have grown := t.registry.registerAll_extends r.2.targets
  rw [addRecord_eq, meanings, List.map_append, meanings]
  -- the rules before keep their numbers, and these keep their targets
  congr 1
  · exact List.map_congr_left fun rule hr => meaning_of_extends grown (h rule hr)
  · have given := Registry.map_get?_registerAll t.registry r.2.targets
    have resolved : (t.registry.registerAll r.2.targets).1.filterMap
        (t.registry.registerAll r.2.targets).2.get? = r.2.targets := by
      simpa [List.filterMap_map] using congrArg (List.filterMap id) given
    simp only [List.map_cons, List.map_nil, meaning]
    exact congrArg (fun ts => [(⟨r.2.head, r.2.truncate, ts⟩ : Record.Meaning)]) resolved

theorem addRecords_resolved {file : String} {t : Table} (rs : List (Nat × Record.Meaning))
    (h : t.Resolved) : (t.addRecords file rs).Resolved := by
  induction rs generalizing t with
  | nil => exact h
  | cons r rs ih => exact ih (addRecord_resolved r h)

theorem addRecords_covered {file : String} {t : Table} (rs : List (Nat × Record.Meaning))
    (h : t.Covered) : (t.addRecords file rs).Covered := by
  induction rs generalizing t with
  | nil => exact h
  | cons r rs ih => exact ih (addRecord_covered r h)

theorem addRecords_meanings {file : String} {t : Table} (rs : List (Nat × Record.Meaning))
    (h : t.Resolved) : (t.addRecords file rs).meanings = t.meanings ++ rs.map (·.2) := by
  induction rs generalizing t with
  | nil => simp [addRecords]
  | cons r rs ih =>
    rw [addRecords_cons, ih (addRecord_resolved r h), addRecord_meanings r h, List.append_assoc,
      List.singleton_append, List.map_cons]

/-- The registry depends on the sequence of targets alone. -/
theorem addRecords_registry (file : String) (t : Table) (rs : List (Nat × Record.Meaning)) :
    (t.addRecords file rs).registry =
      (t.registry.registerAll (rs.flatMap (·.2.targets))).2 := by
  induction rs generalizing t with
  | nil => rfl
  | cons r rs ih =>
    rw [addRecords_cons, ih, List.flatMap_cons, Registry.registerAll_append, addRecord_eq]

theorem addRecords_origins (file : String) (t : Table) (rs : List (Nat × Record.Meaning)) :
    (t.addRecords file rs).rules.map (·.origin) =
      t.rules.map (·.origin) ++ rs.map fun r => ⟨file, r.1⟩ := by
  induction rs generalizing t with
  | nil => simp [addRecords]
  | cons r rs ih =>
    rw [addRecords_cons, ih, addRecord_eq, List.map_append, List.append_assoc]
    rfl

theorem empty_resolved : ({} : Table).Resolved := nofun

theorem empty_covered : ({} : Table).Covered := nofun

/-! ## Compiling a text -/

theorem addLines_eq_none_iff {t u : Table} {file : String} {n : Nat} {lines : List (List Char)} :
    t.addLines file n lines = (u, none) ↔
      (∀ line ∈ lines, Record.IsSound line) ∧ u = t.addRecords file (Record.numbered n lines) := by
  induction lines generalizing t n with
  | nil => simp [addLines, Record.numbered, addRecords, eq_comm]
  | cons line rest ih =>
    rw [List.forall_mem_cons]
    cases hread : Record.read line with
    | blank =>
      have sound : Record.IsSound line := by simp [Record.IsSound, hread]
      simp only [addLines, addReading, Record.numbered, hread, ih, sound, true_and]
    | rule head truncate targets =>
      have sound : Record.IsSound line := by simp [Record.IsSound, hread]
      simp only [addLines, addReading, Record.numbered, hread, ih, sound, true_and]
      rfl
    | faulty fault targets =>
      have unsound : ¬ Record.IsSound line := fun h => h fault targets hread
      simp [addLines, addReading, hread, unsound]

/-- The texts that give a table, and that table. -/
theorem ofText_eq_ok_iff {file text : String} {t : Table} :
    ofText file text = .ok t ↔
      (∀ line ∈ lines text, Record.IsSound line) ∧
        t = addRecords file {} (Record.numbered 1 (lines text)) := by
  rw [← addLines_eq_none_iff, ofText, addSources, addSource]
  rcases addLines {} file 1 (lines text) with ⟨u, _ | e⟩
  · simp [addSources]
  · simp

theorem ofText_meanings {file text : String} {t : Table} (h : ofText file text = .ok t) :
    t.meanings = (Record.numbered 1 (lines text)).map (·.2) := by
  obtain ⟨-, rfl⟩ := ofText_eq_ok_iff.1 h
  exact addRecords_meanings _ empty_resolved

/-- The records of a text ask one by one for what the rules of its table say. -/
theorem ofText_asks {file text : String} {t : Table} (h : ofText file text = .ok t) :
    List.Forall₂ Record.Asks (Record.ofText text) t.meanings := by
  rw [ofText_meanings h]
  exact Record.asks_numbered (ofText_eq_ok_iff.1 h).1 1

theorem ofText_writable {file text : String} {t : Table} (h : ofText file text = .ok t) :
    ∀ r ∈ t.meanings, r.Writable := by
  rw [ofText_meanings h]
  intro r hr
  obtain ⟨n, hn, rfl⟩ := List.mem_map.1 hr
  exact Record.numbered_writable n hn

theorem ofText_registry {file text : String} {t : Table} (h : ofText file text = .ok t) :
    t.registry = (Registry.registerAll {} (t.meanings.flatMap (·.targets))).2 := by
  rw [ofText_meanings h]
  obtain ⟨-, rfl⟩ := ofText_eq_ok_iff.1 h
  rw [addRecords_registry, List.flatMap_map]

theorem ofText_origins {file text : String} {t : Table} (h : ofText file text = .ok t) :
    t.rules.map (·.origin) = (Record.numbered 1 (lines text)).map fun r => ⟨file, r.1⟩ := by
  obtain ⟨-, rfl⟩ := ofText_eq_ok_iff.1 h
  exact addRecords_origins file {} _

theorem ofText_resolved {file text : String} {t : Table} (h : ofText file text = .ok t) :
    t.Resolved := by
  obtain ⟨-, rfl⟩ := ofText_eq_ok_iff.1 h
  exact addRecords_resolved _ empty_resolved

theorem ofText_covered {file text : String} {t : Table} (h : ofText file text = .ok t) :
    t.Covered := by
  obtain ⟨-, rfl⟩ := ofText_eq_ok_iff.1 h
  exact addRecords_covered _ empty_covered

end Table

end Patchbay
