/-
Loading a routing. A load goes wrong exactly if a rule file cannot be read, a line of one is not
grammatical, or a target that a line names cannot be reached. A load that goes well gives a compiled
table, with one client for each endpoint of its registry, and sets the gauges to the size of the
table; one that goes wrong touches no metric.
-/
import Patchbay.Forwarder
import Patchbay.Proofs.Load.Clients
import Patchbay.Proofs.Rules.Compiled

namespace Patchbay

/-! ## Reading the files -/

/-- The sources are the files with their texts. -/
def Table.TextsOf (read : FileReader) (files : List String) (sources : List (String × String)) :
    Prop :=
  List.Forall₂ (fun file source => source.1 = file ∧ read file = .ok source.2) files sources

theorem Table.TextsOf.mem_iff {read : FileReader} {files : List String}
    {sources : List (String × String)} (h : TextsOf read files sources) {file text : String} :
    (file, text) ∈ sources ↔ file ∈ files ∧ read file = .ok text := by
  constructor
  · intro hs
    obtain ⟨_, hfile, rfl, there⟩ := exists_left_of_forall₂ h hs
    exact ⟨hfile, there⟩
  · rintro ⟨hfile, there⟩
    obtain ⟨⟨_, _⟩, hs, rfl, same⟩ := exists_left_of_forall₂ h.flip hfile
    rw [there] at same
    cases same
    exact hs

theorem Table.readAll_of_texts {read : FileReader} {files : List String}
    {texts : List (String × String)} (h : TextsOf read files texts) :
    readAll read files = .ok texts := by
  induction h with
  | nil => rfl
  | @cons file source files sources there _ ih =>
    obtain ⟨rfl, there⟩ := there
    simp only [readAll, there, ih]
    rfl

theorem Table.readAll_cases (read : FileReader) (files : List String) :
    (∃ sources, readAll read files = .ok sources ∧ TextsOf read files sources) ∨
    ∃ e, readAll read files = .error e ∧ ∃ file ∈ files, ∃ reason, read file = .error reason := by
  induction files with
  | nil => exact .inl ⟨[], rfl, .nil⟩
  | cons file rest ih =>
    cases hr : read file with
    | error reason =>
      exact .inr ⟨_, by simp only [readAll, hr]; rfl, file, List.mem_cons_self .., reason, hr⟩
    | ok text =>
      rcases ih with ⟨sources, hrest, texts⟩ | ⟨e, hrest, other, hother, refused⟩
      · refine .inl ⟨(file, text) :: sources, ?_, .cons ⟨rfl, hr⟩ texts⟩
        simp only [readAll, hr, hrest]
        rfl
      · refine .inr ⟨e, ?_, other, List.mem_cons_of_mem file hother, refused⟩
        simp only [readAll, hr, hrest]
        rfl

namespace Routing

/-! ## What a load can fail at -/

/-- What makes loading the files impossible. -/
inductive Fault (read : FileReader) (machine : Machine) (files : List String) : Prop
  | unreadable {file reason : String} (asked : file ∈ files) (refused : read file = .error reason)
  | ungrammatical {file text : String} {line : List Char} (asked : file ∈ files)
      (there : read file = .ok text) (written : line ∈ Table.lines text)
      (bad : ¬ Record.Grammatical (Record.fields line))
  | unreachable {file text : String} {line : List Char} {target : Target} (asked : file ∈ files)
      (there : read file = .ok text) (written : line ∈ Table.lines text)
      (named : target ∈ Record.named (Record.fields line))
      (gone : Pool.Unreachable machine target.endpoint)

/-- A compiled table and a client for each endpoint of its registry. -/
structure Sound (routing : Routing) : Prop where
  compiled : routing.table.Compiled
  clients : routing.pool.clients.map (·.endpoint) = routing.table.registry.endpoints

section

variable {read : FileReader} {machine : Machine} {files : List String}
  {sources : List (String × String)}

/-- Files whose texts give no table. -/
theorem fault_of_addSources
    (texts : Table.TextsOf read files sources) {e : LoadError}
    (h : Table.addSources {} sources = .error e) : Fault read machine files := by
  by_contra sound_files
  have sound : ∀ source ∈ sources, Table.IsSound source := by
    rintro ⟨file, text⟩ hs line hline
    obtain ⟨hfile, there⟩ := texts.mem_iff.1 hs
    by_contra bad
    exact sound_files (.ungrammatical hfile there hline bad)
  rw [Table.addSources_sound sound] at h
  cases h

/-- The endpoints that a load asks for are those of the targets that the lines name. -/
theorem mem_endpoints_iff
    (texts : Table.TextsOf read files sources) {table : Table}
    (h : Table.addSources {} sources = .ok table) {e : Endpoint} :
    e ∈ table.registry.endpoints ↔ ∃ file ∈ files, ∃ text, read file = .ok text ∧
      ∃ line ∈ Table.lines text, ∃ target ∈ Record.named (Record.fields line),
        target.endpoint = e := by
  rw [Registry.endpoints, List.mem_eraseDups, List.mem_map, Table.addSources_targets h]
  simp only [List.mem_eraseDups, List.mem_flatMap]
  constructor
  · rintro ⟨target, ⟨⟨file, text⟩, hs, line, hline, named⟩, rfl⟩
    obtain ⟨hfile, there⟩ := texts.mem_iff.1 hs
    exact ⟨file, hfile, text, there, line, hline, target, named, rfl⟩
  · rintro ⟨file, hfile, text, there, line, hline, target, named, rfl⟩
    exact ⟨target, ⟨(file, text), texts.mem_iff.2 ⟨hfile, there⟩, line, hline, named⟩, rfl⟩

/-- Files whose texts give a table that names nothing but what can be reached. -/
theorem not_fault (texts : Table.TextsOf read files sources) {table : Table}
    (h : Table.addSources {} sources = .ok table)
    (reachable : ∀ e ∈ table.registry.endpoints, ¬ Pool.Unreachable machine e) :
    ¬ Fault read machine files := by
  rintro (⟨hfile, refused⟩ | ⟨hfile, there, hline, bad⟩ | ⟨hfile, there, hline, named, gone⟩)
  · obtain ⟨source, -, -, same⟩ := exists_left_of_forall₂ texts.flip hfile
    rw [refused] at same
    cases same
  · have sound := (Table.addSources_eq_ok_iff.1 h).1 _ (texts.mem_iff.2 ⟨hfile, there⟩)
    exact bad (sound _ hline)
  · exact reachable _ ((mem_endpoints_iff texts h).2
      ⟨_, hfile, _, there, _, hline, _, named, rfl⟩) gone

end

/-! ## Loading -/

/-- Everything that a load can come to. -/
theorem load_cases (read : FileReader) (machine : Machine) (timeout : Nat) (files : List String) :
    (∃ routing quiet, load read machine timeout files =
        (.ok routing, quiet ++ loadedEntries routing.table) ∧
      quiet.Silent ∧ routing.Sound ∧ ¬ Fault read machine files) ∨
    ∃ e journal, load read machine timeout files = (.error e, journal) ∧ journal.Silent ∧
      Fault read machine files := by
  rcases Table.readAll_cases read files with ⟨sources, hread, texts⟩ |
    ⟨e, hread, file, hfile, reason, refused⟩
  · cases hadd : Table.addSources {} sources with
    | error e =>
      refine .inr ⟨.rules e, [], ?_, nofun, fault_of_addSources texts hadd⟩
      simp only [load, hread, ofSources, hadd]
    | ok table =>
      rcases Pool.build_cases machine timeout table.registry with
        ⟨pool, journal, hbuild, silent, clients, reachable⟩ |
        ⟨fault, journal, hbuild, silent, e, he, gone⟩
      · refine .inl ⟨⟨table, pool⟩, journal, ?_, silent, ⟨⟨sources, hadd⟩, clients⟩,
          not_fault texts hadd reachable⟩
        simp only [load, hread, ofSources, hadd, hbuild]
      · obtain ⟨file, hfile, text, there, line, hline, target, named, rfl⟩ :=
          (mem_endpoints_iff texts hadd).1 he
        refine .inr ⟨.client fault, journal, ?_, silent, .unreachable hfile there hline named gone⟩
        simp only [load, hread, ofSources, hadd, hbuild]
  · refine .inr ⟨.rules e, [], ?_, nofun, .unreadable hfile refused⟩
    simp only [load, hread]

/-- What is loaded is sound. -/
theorem sound_of_load {read : FileReader} {machine : Machine} {timeout : Nat}
    {files : List String} {routing : Routing}
    (h : (load read machine timeout files).1 = .ok routing) : routing.Sound := by
  rcases load_cases read machine timeout files with ⟨loaded, quiet, hload, -, sound, -⟩ |
    ⟨e, journal, hload, -⟩
  · rw [hload] at h
    cases h
    exact sound
  · rw [hload] at h
    cases h

/-- A loaded table sets the gauges to its own size, and nothing else. -/
theorem foldl_loadedEntries (t : Table) (m : Metric) (v : Nat) :
    (loadedEntries t).foldl (Entry.apply m) v =
      if m = .routingRules then t.rules.length
      else if m = .routingTargets then t.registry.size else v := by
  have shown : Journal.Silent (.event (.rulesLoaded t.rules.length t.registry.size) ::
      t.rules.map fun rule => .event (.ruleLoaded rule (rule.targets.filterMap t.target?))) := by
    refine List.forall_mem_cons.2 ⟨rfl, fun e he => ?_⟩
    obtain ⟨rule, -, rfl⟩ := List.mem_map.1 he
    rfl
  rw [loadedEntries, List.foldl_append, shown.foldl_apply]
  cases m <;> rfl

end Routing

end Patchbay
