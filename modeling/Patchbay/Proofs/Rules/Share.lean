/-
What a source adds to a table: its share. That is the records of its lines up to the first line
that is faulty, and the targets that this line names before its fault. The share is read off the
text alone; `Table.addSource_eq` says that adding the source adds the share to any table, and
`Table.absorb_rules` and `Table.absorb_targets` say what has been added.
-/
import Patchbay.Proofs.Rules.Grammar

namespace Patchbay

namespace Record

/-- The records among lines, each with the number of its line; that of the first line is `n`. -/
def located (n : Nat) (lines : List (List Char)) : List (List String × Nat) :=
  ((lines.map fields).zipIdx n).filter (!·.1.isEmpty)

/-- The targets that the tokens of a record stand for. -/
def named (fs : List String) : List Target :=
  (fs.drop 2).filterMap fun token => (Target.parse token).toOption

theorem asks_located {lines : List (List Char)} (h : ∀ line ∈ lines, IsSound line) (n : Nat) :
    List.Forall₂ (fun p r => p.2 = r.1 ∧ Asks p.1 r.2) (located n lines) (numbered n lines) := by
  induction lines generalizing n with
  | nil => exact .nil
  | cons line rest ih =>
    have later := ih (fun l hl => h l (List.mem_cons_of_mem line hl)) (n + 1)
    cases hread : read line with
    | blank =>
      have no_field : fields line = [] := readFields_eq_blank_iff.1 hread
      simp only [numbered, hread]
      rwa [located, List.map_cons, List.zipIdx_cons, List.filter_cons_of_neg (by simp [no_field])]
    | rule head truncate targets =>
      have some_field : fields line ≠ [] := by
        intro hnil
        rw [read, readFields_eq_blank_iff.2 hnil] at hread
        cases hread
      simp only [numbered, hread]
      rw [located, List.map_cons, List.zipIdx_cons,
        List.filter_cons_of_pos (by simpa using some_field)]
      exact .cons ⟨rfl, hread⟩ later
    | faulty fault targets => exact absurd hread (h line (List.mem_cons_self ..) fault targets)

theorem filterMap_parse {tokens : List String} {ts : List Target}
    (h : List.Forall₂ (fun token t => Target.parse token = .ok t) tokens ts) :
    tokens.filterMap (fun token => (Target.parse token).toOption) = ts := by
  induction h with
  | nil => rfl
  | cons hp _ ih => rw [List.filterMap_cons_some (by rw [hp]; rfl), ih]

theorem Asks.named_eq {fs : List String} {r : Meaning} (h : Asks fs r) : named fs = r.targets := by
  obtain ⟨first, tokens, rfl, -, -, parsed⟩ := readFields_eq_rule_iff.1 h
  exact filterMap_parse parsed

theorem flatMap_named {ps : List (List String × Nat)} {rs : List (Nat × Meaning)}
    (h : List.Forall₂ (fun p r => p.2 = r.1 ∧ Asks p.1 r.2) ps rs) :
    ps.flatMap (named ·.1) = rs.flatMap (·.2.targets) := by
  induction h with
  | nil => rfl
  | cons hp _ ih => rw [List.flatMap_cons, List.flatMap_cons, hp.2.named_eq, ih]

/-- The targets of the records among lines; the numbers of the lines do not matter. -/
theorem flatMap_located (n : Nat) (lines : List (List Char)) :
    (located n lines).flatMap (named ·.1) = lines.flatMap fun line => named (fields line) := by
  induction lines generalizing n with
  | nil => rfl
  | cons line rest ih =>
    have tail : ((rest.map fields).zipIdx (n + 1)).filter (!·.1.isEmpty) = located (n + 1) rest := rfl
    rw [located, List.map_cons, List.zipIdx_cons, List.filter_cons, tail, List.flatMap_cons, ← ih]
    split
    · rfl
    · rename_i hempty
      have no_field : fields line = [] := by simpa using hempty
      rw [no_field]
      rfl

/-- What a line asks for, if it is a record. -/
def meaning? (line : List Char) : Option Meaning :=
  match read line with
  | .rule head truncate targets => some ⟨head, truncate, targets⟩
  | _ => none

theorem map_snd_numbered (n : Nat) (lines : List (List Char)) :
    (numbered n lines).map (·.2) = lines.filterMap meaning? := by
  induction lines generalizing n with
  | nil => rfl
  | cons line rest ih =>
    unfold numbered
    rw [List.filterMap_cons, meaning?]
    split <;> simp [*]

theorem exists_faulty {line : List Char} (h : ¬ Grammatical (fields line)) :
    ∃ fault ts, Faulty (fields line) fault ts := by
  rw [← isSound_iff, IsSound] at h
  push Not at h
  obtain ⟨fault, ts, hread⟩ := h
  exact ⟨fault, ts, readFields_eq_faulty_iff.1 hread⟩

end Record

/-! ## Shares -/

/-- What a source adds to a table, and how adding it ends. -/
structure Share where
  file : String
  /-- The lines before the first faulty one. -/
  kept : List (List Char)
  /-- The targets that the faulty line names before its fault. -/
  stranded : List Target
  error : Option LoadError

namespace Share

def records (s : Share) : List (List String × Nat) := Record.located 1 s.kept

/-- The targets of the records, and the stranded ones. -/
def targets (s : Share) : List Target := s.records.flatMap (Record.named ·.1) ++ s.stranded

/-- The share of a source with the given name and text. -/
inductive Of (file text : String) : Share → Prop
  | whole (sound : ∀ line ∈ Table.lines text, Record.Grammatical (Record.fields line)) :
      Of file text ⟨file, Table.lines text, [], none⟩
  | broken {before after : List (List Char)} {line : List Char} {fault : RecordError}
      {ts : List Target} (split : Table.lines text = before ++ line :: after)
      (sound : ∀ l ∈ before, Record.Grammatical (Record.fields l))
      (faulty : Record.Faulty (Record.fields line) fault ts) :
      Of file text ⟨file, before, ts, some (.badRecord ⟨file, before.length + 1⟩
        (String.ofList (Text.trim (Record.content line))) fault)⟩

theorem exists_of (file text : String) : ∃ s, Of file text s := by
  rcases forall_or_first (fun line => Record.Grammatical (Record.fields line)) (Table.lines text) with
    sound | ⟨before, line, after, split, sound, bad⟩
  · exact ⟨_, .whole sound⟩
  · obtain ⟨fault, ts, faulty⟩ := Record.exists_faulty bad
    exact ⟨_, .broken split sound faulty⟩

/-- What the rules of the share say. -/
def meanings (s : Share) : List Record.Meaning := s.kept.filterMap Record.meaning?

theorem targets_eq (s : Share) :
    s.targets = (s.kept.flatMap fun line => Record.named (Record.fields line)) ++ s.stranded := by
  rw [targets, records, Record.flatMap_located]

variable {file text : String} {s : Share}

theorem Of.sound (h : Of file text s) : ∀ line ∈ s.kept, Record.IsSound line := by
  cases h with
  | whole sound => exact fun line hline => Record.isSound_iff.2 (sound line hline)
  | broken _ sound _ => exact fun line hline => Record.isSound_iff.2 (sound line hline)

/-- Only a bad target strands the targets before it. -/
theorem Of.error_of_stranded (h : Of file text s) (hne : s.stranded ≠ []) :
    ∃ origin content token reason,
      s.error = some (.badRecord origin content (.badTarget token reason)) := by
  cases h with
  | whole => exact absurd rfl hne
  | broken _ _ faulty =>
    obtain ⟨token, reason, rfl⟩ := faulty.badTarget_of_ne_nil hne
    exact ⟨_, _, token, reason, rfl⟩

end Share

namespace Table

/-! ## Adding a share -/

/-- Adds the records of a share, and registers its stranded targets. -/
def absorb (t : Table) (s : Share) : Table :=
  let u := t.addRecords s.file (Record.numbered 1 s.kept)
  ⟨u.rules, (u.registry.registerAll s.stranded).2⟩

theorem addLines_append {t : Table} {file : String} {n : Nat} {before rest : List (List Char)}
    (h : ∀ line ∈ before, Record.IsSound line) :
    t.addLines file n (before ++ rest) =
      (t.addRecords file (Record.numbered n before)).addLines file (n + before.length) rest := by
  induction before generalizing t n with
  | nil => rfl
  | cons line before ih =>
    have tail := fun l hl => h l (List.mem_cons_of_mem line hl)
    rw [List.length_cons, show n + (before.length + 1) = n + 1 + before.length by omega,
      List.cons_append]
    cases hread : Record.read line with
    | blank =>
      simp only [addLines, addReading, Record.numbered, hread]
      exact ih tail
    | rule head truncate targets =>
      simp only [addLines, addReading, Record.numbered, hread]
      exact ih tail
    | faulty fault targets => exact absurd hread (h line (List.mem_cons_self ..) fault targets)

/-- A source adds its share, whatever there is already. -/
theorem addSource_eq {file text : String} {s : Share} (h : Share.Of file text s) (t : Table) :
    t.addSource file text = (t.absorb s, s.error) := by
  cases h with
  | whole sound =>
    have all := fun line hline => Record.isSound_iff.2 (sound line hline)
    exact addLines_eq_none_iff.2 ⟨all, rfl⟩
  | broken split sound faulty =>
    have all := fun line hline => Record.isSound_iff.2 (sound line hline)
    have hread := Record.readFields_eq_faulty_iff.2 faulty
    rw [addSource, split, addLines_append all, Nat.add_comm, addLines, Record.read, hread]
    rfl

/-! ## What has been added -/

/-- The rule is the one that a record of `file` stands for, given by its fields and its line. -/
structure Gives (t : Table) (file : String) (r : List String × Nat) (rule : Rule) : Prop where
  origin : rule.origin = ⟨file, r.2⟩
  record : ∃ first tokens, r.1 = first :: indicator rule.truncate :: tokens ∧
    Record.Spells first rule.head ∧
    List.Forall₂ (fun token id => ∃ target, Target.parse token = .ok target ∧
      t.target? id = some target) tokens rule.targets

/-- A rule goes on being what its record stands for when targets are registered. -/
theorem Gives.extend {t u : Table} {file : String} {r : List String × Nat} {rule : Rule}
    (h : t.Gives file r rule) (grown : t.registry.targets <+: u.registry.targets) :
    u.Gives file r rule := by
  obtain ⟨first, tokens, hfs, spelled, resolved⟩ := h.record
  refine ⟨h.origin, first, tokens, hfs, spelled, resolved.imp ?_⟩
  rintro token id ⟨target, parsed, hid⟩
  exact ⟨target, parsed, (Registry.get?_of_extends grown (Registry.lt_size_of_get? hid)).trans hid⟩

theorem addRecords_extends (file : String) (t : Table) (rs : List (Nat × Record.Meaning)) :
    t.registry.targets <+: (t.addRecords file rs).registry.targets := by
  rw [addRecords_registry]
  exact Registry.registerAll_extends _ _

/-- The numbers that a record is given stand for its targets. -/
theorem resolved_addRecord (file : String) (t : Table) (r : Nat × Record.Meaning) :
    List.Forall₂ (fun target id => (t.addRecord file r).target? id = some target)
      r.2.targets (t.registry.registerAll r.2.targets).1 := by
  have given := Registry.map_get?_registerAll t.registry r.2.targets
  rw [← List.forall₂_eq_eq_eq, List.forall₂_map_left_iff, List.forall₂_map_right_iff] at given
  exact given.flip

/-- A record adds one rule, the one that it stands for. -/
theorem gives_addRecord (file : String) (t : Table) {fs : List String} {r : Nat × Record.Meaning}
    (h : Record.Asks fs r.2) :
    ∃ rule, (t.addRecord file r).rules = t.rules ++ [rule] ∧
      (t.addRecord file r).Gives file (fs, r.1) rule := by
  obtain ⟨first, tokens, rfl, -, hhead, parsed⟩ := Record.readFields_eq_rule_iff.1 h
  exact ⟨_, rfl, rfl, first, tokens, rfl, Record.head_eq_ok_iff_spells.1 hhead,
    forall₂_comp parsed (resolved_addRecord file t r)⟩

theorem gives_addRecords (file : String) (t : Table) {ps : List (List String × Nat)}
    {rs : List (Nat × Record.Meaning)}
    (h : List.Forall₂ (fun p r => p.2 = r.1 ∧ Record.Asks p.1 r.2) ps rs) :
    ∃ rules, (t.addRecords file rs).rules = t.rules ++ rules ∧
      List.Forall₂ ((t.addRecords file rs).Gives file) ps rules := by
  induction h generalizing t with
  | nil => exact ⟨[], (List.append_nil _).symm, .nil⟩
  | @cons p r ps rs hp _ ih =>
    obtain ⟨fs, n⟩ := p
    obtain ⟨rfl, asks⟩ := hp
    obtain ⟨rule, one, first⟩ := gives_addRecord file t asks
    obtain ⟨rules, more, later⟩ := ih (t.addRecord file r)
    refine ⟨rule :: rules, ?_, .cons (first.extend (addRecords_extends file _ rs)) later⟩
    rw [addRecords_cons, more, one, List.append_assoc, List.singleton_append]

variable {file text : String} {s : Share}

/-- The rules of a share are added behind those that are there. -/
theorem absorb_rules (h : Share.Of file text s) (t : Table) :
    ∃ rules, (t.absorb s).rules = t.rules ++ rules ∧
      List.Forall₂ ((t.absorb s).Gives s.file) s.records rules := by
  obtain ⟨rules, added, given⟩ := gives_addRecords s.file t (Record.asks_located h.sound 1)
  exact ⟨rules, added, given.imp fun _ _ g => g.extend (Registry.registerAll_extends _ _)⟩

/-- The targets of a share are registered in their order. -/
theorem absorb_registry (h : Share.Of file text s) (t : Table) :
    (t.absorb s).registry = (t.registry.registerAll s.targets).2 := by
  have named := Record.flatMap_named (Record.asks_located h.sound 1)
  rw [Share.targets, Registry.registerAll_append, Share.records, named,
    ← addRecords_registry s.file]
  rfl

theorem absorb_resolved {t : Table} (h : t.Resolved) (s : Share) : (t.absorb s).Resolved := by
  have records : (t.addRecords s.file (Record.numbered 1 s.kept)).Resolved :=
    addRecords_resolved _ h
  have grown := Registry.registerAll_extends
    (t.addRecords s.file (Record.numbered 1 s.kept)).registry s.stranded
  intro rule hrule id hid
  exact Nat.lt_of_lt_of_le (records rule hrule id hid) (Registry.size_le_of_extends grown)

theorem absorb_meanings {t : Table} (h : t.Resolved) (s : Share) :
    (t.absorb s).meanings = t.meanings ++ s.meanings := by
  have records : (t.addRecords s.file (Record.numbered 1 s.kept)).Resolved :=
    addRecords_resolved _ h
  have grown := Registry.registerAll_extends
    (t.addRecords s.file (Record.numbered 1 s.kept)).registry s.stranded
  calc (t.absorb s).meanings
      = (t.addRecords s.file (Record.numbered 1 s.kept)).meanings :=
        List.map_congr_left fun rule hr => meaning_of_extends grown (records rule hr)
    _ = t.meanings ++ s.meanings := by
        rw [addRecords_meanings _ h, Record.map_snd_numbered, Share.meanings]

/-! ## The table of a text -/

/-- A text gives the table of its share, or the error of its first faulty line. -/
theorem ofText_eq (h : Share.Of file text s) :
    ofText file text = match s.error with
      | none => .ok (absorb {} s)
      | some e => .error e := by
  rw [ofText, addSources, addSource_eq h]
  cases s.error <;> rfl

/-- What the share of a text makes of the empty table. -/
theorem absorb_empty (h : Share.Of file text s) :
    List.Forall₂ ((absorb {} s).Gives s.file) s.records (absorb {} s).rules ∧
      (absorb {} s).registry.targets = s.targets.eraseDups := by
  obtain ⟨rules, added, given⟩ := absorb_rules h {}
  refine ⟨?_, ?_⟩
  · rw [added]
    exact given
  · rw [absorb_registry h {}, Registry.registerAll_empty_targets]

/-- The texts that give a table are those of which every line is blank or a record. The rules of the
table are then the records, one by one, and the registry lists the targets that they name, each of
them once and at its first place. Any other text gives the error of its first line that is neither,
and the fault is the first that this line has. -/
theorem ofText_accepts (file text : String) :
    ((∃ t, ofText file text = .ok t) ↔
        ∀ line ∈ lines text, Record.Grammatical (Record.fields line)) ∧
      (∀ t, ofText file text = .ok t →
        List.Forall₂ (t.Gives file) (Record.located 1 (lines text)) t.rules ∧
          t.registry.targets =
            ((Record.located 1 (lines text)).flatMap (Record.named ·.1)).eraseDups) ∧
      ∀ e, ofText file text = .error e → ∃ before line after fault ts,
        lines text = before ++ line :: after ∧
          (∀ l ∈ before, Record.Grammatical (Record.fields l)) ∧
          ¬ Record.Grammatical (Record.fields line) ∧
          Record.Faulty (Record.fields line) fault ts ∧
          e = .badRecord ⟨file, before.length + 1⟩
            (String.ofList (Text.trim (Record.content line))) fault := by
  obtain ⟨s, h⟩ := Share.exists_of file text
  have result := ofText_eq h
  have table := absorb_empty h
  cases h with
  | whole sound =>
    refine ⟨⟨fun _ => sound, fun _ => ⟨_, result⟩⟩, fun t ht => ?_, fun e he => ?_⟩
    · rw [result] at ht
      cases ht
      simpa [Share.targets, Share.records] using table
    · rw [result] at he
      cases he
  | @broken before after line fault ts split sound faulty =>
    refine ⟨⟨?_, fun all => ?_⟩, fun t ht => ?_, fun e he => ?_⟩
    · rintro ⟨t, ht⟩
      rw [result] at ht
      cases ht
    · exact absurd (all line (by simp [split])) faulty.not_grammatical
    · rw [result] at ht
      cases ht
    · rw [result] at he
      cases he
      exact ⟨before, line, after, fault, ts, split, sound, faulty.not_grammatical, faulty, rfl⟩

/-- A text whose third line is a record with blanks and slashes of several kinds; and one whose third
line names two segments, has no indicator and no target: the first of these faults is the one that is
reported. -/
theorem ofText_accepts_irregular :
    (let text := "\n# none\n\u00a0//a/ +\th:1 k:+02//x h:1 # one\r\n/b - k:2//x"
      ∃ t, ofText "rules" text = .ok t ∧
        List.Forall₂ (t.Gives "rules") (Record.located 1 (lines text)) t.rules ∧
        t.registry.targets =
          ((Record.located 1 (lines text)).flatMap (Record.named ·.1)).eraseDups) ∧
      let text := "/a + h:1 k:2/x # one\n \n/a/b * h:0 :1\n/ +"
      ∃ before line after fault ts, lines text = before ++ line :: after ∧
        (∀ l ∈ before, Record.Grammatical (Record.fields l)) ∧
        ¬ Record.Grammatical (Record.fields line) ∧ Record.Faulty (Record.fields line) fault ts ∧
        LoadError.badRecord ⟨"rules", 3⟩ "/a/b * h:0 :1" .severalSegments =
          .badRecord ⟨"rules", before.length + 1⟩
            (String.ofList (Text.trim (Record.content line))) fault := by
  refine ⟨?_, (ofText_accepts "rules" _).2.2 _ (by decide +kernel)⟩
  let t : Table := ⟨[⟨"a", false, [⟨0⟩, ⟨1⟩, ⟨0⟩], ⟨"rules", 3⟩⟩, ⟨"b", true, [⟨1⟩], ⟨"rules", 4⟩⟩],
    ⟨[⟨"h", 1, none⟩, ⟨"k", 2, some "//x"⟩]⟩⟩
  have compiled : ofText "rules" "\n# none\n\u00a0//a/ +\th:1 k:+02//x h:1 # one\r\n/b - k:2//x" =
      .ok t := by
    decide +kernel
  exact ⟨t, compiled, (ofText_accepts "rules" _).2.1 t compiled⟩

end Table

end Patchbay
