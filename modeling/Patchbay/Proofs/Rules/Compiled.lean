/-
Compiled tables: the tables that sources give. Every number in a rule of such a table has a target,
and the registry lists the targets that the rules name, each of them once, and no others. They are
targets that a token can stand for, so no two of them are written the same.
-/
import Patchbay.Proofs.Rules.Sources

namespace Patchbay

namespace Target

/-- Targets that a token can stand for are told apart by their text. -/
theorem text_inj {t u : Target} (ht : t.WellFormed) (hu : u.WellFormed) (h : t.text = u.text) :
    t = u := by
  have same : parse t.text = .ok u := by rw [h, parse_text hu]
  rw [parse_text ht] at same
  exact Except.ok.inj same

/-- Without that, a port can be taken for the end of a host, or a path for a part of it. -/
example :
    (⟨"h:1", 2, none⟩ : Target).text = (⟨"h", 1, some ":2"⟩ : Target).text := by decide

end Target

namespace Record

theorem writable_of_meaning? {line : List Char} {r : Meaning} (h : meaning? line = some r) :
    r.Writable := by
  unfold meaning? at h
  split at h
  · rename_i hread
    cases h
    exact writable_of_read hread
  · cases h

/-- Sound lines name the targets that their rules go to. -/
theorem flatMap_named_lines {lines : List (List Char)} (h : ∀ line ∈ lines, IsSound line) :
    (lines.flatMap fun line => named (fields line)) =
      (lines.filterMap meaning?).flatMap (·.targets) := by
  rw [← flatMap_located 1, flatMap_named (asks_located h 1), ← map_snd_numbered 1, List.flatMap_map]

end Record

namespace Table

/-! ## Which sources give a table -/

theorem addSources_eq_ok_iff {t u : Table} {sources : List (String × String)} :
    t.addSources sources = .ok u ↔
      (∀ source ∈ sources, IsSound source) ∧ u = t.absorbAll (sources.map wholeShare) := by
  constructor
  · intro h
    rcases forall_or_first IsSound sources with sound | ⟨before, source, after, rfl, sound, bad⟩
    · rw [addSources_sound sound] at h
      exact ⟨sound, (Except.ok.inj h).symm⟩
    · obtain ⟨front, line, back, fault, ts, split, good, faulty⟩ := exists_first_fault bad
      rw [addSources_error sound (.broken split good faulty) rfl] at h
      cases h
  · rintro ⟨sound, rfl⟩
    exact addSources_sound sound t

/-- A run of sources leaves the table, whichever of them fail. -/
def Gathered (t : Table) : Prop := ∃ sources, (feed {} sources).1 = t

theorem Gathered.resolved {t : Table} (h : t.Gathered) : t.Resolved := by
  obtain ⟨sources, rfl⟩ := h
  obtain ⟨shares, of⟩ := exists_sharesOf sources
  rw [feed_eq of]
  exact absorbAll_resolved empty_resolved _

theorem Gathered.writable {t : Table} (h : t.Gathered) : ∀ r ∈ t.meanings, r.Writable := by
  obtain ⟨sources, rfl⟩ := h
  obtain ⟨shares, of⟩ := exists_sharesOf sources
  intro r hr
  rw [feed_eq of, absorbAll_meanings empty_resolved] at hr
  rcases List.mem_append.1 hr with none_there | hr
  · cases none_there
  · obtain ⟨s, -, hr⟩ := List.mem_flatMap.1 hr
    obtain ⟨line, -, hline⟩ := List.mem_filterMap.1 hr
    exact Record.writable_of_meaning? hline

/-- Some sources give the table. -/
def Compiled (t : Table) : Prop := ∃ sources, addSources {} sources = .ok t

/-- Sources that all succeed leave the table that they give. -/
theorem Compiled.gathered {t : Table} (h : t.Compiled) : t.Gathered := by
  obtain ⟨sources, given⟩ := h
  obtain ⟨sound, rfl⟩ := addSources_eq_ok_iff.1 given
  exact ⟨sources, by rw [feed_eq (sharesOf_sound sound)]⟩

theorem compiled_of_ofText {file text : String} {t : Table} (h : ofText file text = .ok t) :
    t.Compiled := ⟨[(file, text)], h⟩

theorem targets_wholeShare (source : String × String) :
    (wholeShare source).targets =
      (lines source.2).flatMap fun line => Record.named (Record.fields line) := by
  rw [Share.targets_eq]
  exact List.append_nil _

/-- The registry lists what the lines of the sources name. -/
theorem addSources_targets {sources : List (String × String)} {t : Table}
    (h : addSources {} sources = .ok t) :
    t.registry.targets = (sources.flatMap fun source =>
      (lines source.2).flatMap fun line => Record.named (Record.fields line)).eraseDups := by
  obtain ⟨sound, rfl⟩ := addSources_eq_ok_iff.1 h
  rw [absorbAll_registry (sharesOf_sound sound), Registry.registerAll_empty_targets,
    List.flatMap_map]
  simp only [targets_wholeShare]

/-! ## What is known of a compiled table -/

variable {t : Table}

theorem Compiled.resolved (h : t.Compiled) : t.Resolved := h.gathered.resolved

theorem Compiled.writable (h : t.Compiled) : ∀ r ∈ t.meanings, r.Writable := h.gathered.writable

/-- The registry lists the targets that the rules name, in the order of their first mention. -/
theorem Compiled.registry_targets (h : t.Compiled) :
    t.registry.targets = (t.meanings.flatMap (·.targets)).eraseDups := by
  obtain ⟨sources, given⟩ := h
  obtain ⟨sound, rfl⟩ := addSources_eq_ok_iff.1 given
  have none_there : meanings {} = [] := rfl
  rw [addSources_targets given, absorbAll_meanings empty_resolved, none_there, List.nil_append,
    List.flatMap_map, List.flatMap_assoc]
  congr 1
  refine List.flatMap_congr fun source hs => ?_
  exact Record.flatMap_named_lines fun line hline => Record.isSound_iff.2 (sound source hs line hline)

theorem mem_meanings_targets {target : Target} :
    target ∈ t.meanings.flatMap (·.targets) ↔
      ∃ rule ∈ t.rules, ∃ id ∈ rule.targets, t.target? id = some target := by
  simp [meanings, meaning, List.mem_flatMap, List.mem_filterMap]

/-- What the registry lists is what some rule goes to. -/
theorem Compiled.mem_targets_iff (h : t.Compiled) {target : Target} :
    target ∈ t.registry.targets ↔
      ∃ rule ∈ t.rules, ∃ id ∈ rule.targets, t.target? id = some target := by
  rw [h.registry_targets, List.mem_eraseDups, mem_meanings_targets]

theorem Compiled.wellFormed (h : t.Compiled) {target : Target} (ht : target ∈ t.registry.targets) :
    target.WellFormed := by
  rw [h.registry_targets, List.mem_eraseDups] at ht
  obtain ⟨r, hr, ht⟩ := List.mem_flatMap.1 ht
  exact (h.writable r hr).wellFormed target ht

/-- A plan goes to targets that the rules name. -/
theorem exists_rule_of_plan {address : String} {f : Forward} (h : f ∈ t.plan address) :
    ∃ rule ∈ t.rules, ∃ id ∈ rule.targets, t.target? id = some f.target := by
  have sent : (f.target, f.path) ∈ (t.plan address).map fun f => (f.target, f.path) :=
    List.mem_map_of_mem h
  rw [sends_plan] at sent
  obtain ⟨r, hr, sent⟩ := List.mem_flatMap.1 sent
  obtain ⟨target, htarget, pair⟩ := List.mem_map.1 sent
  obtain ⟨same, -⟩ := Prod.mk.inj pair
  exact mem_meanings_targets.1
    (List.mem_flatMap.2 ⟨r, (List.mem_filter.1 hr).1, same ▸ htarget⟩)

end Table

end Patchbay
