/-
Several sources in one table. Each adds its share, whether or not the sources before it failed, so
`Table.feed`, which goes on after a fault, leaves the records before each fault and their targets,
and the targets stranded by a fault. `Table.addSources`, which stops at the first fault, does what
compiling all texts as one does: only the names and the numbers of the lines are different.
-/
import Patchbay.Proofs.Dispatch.Plan
import Patchbay.Proofs.Rules.Share

namespace Patchbay

namespace Table

/-! ## Adding several shares -/

def absorbAll (t : Table) (shares : List Share) : Table := shares.foldl absorb t

/-- The shares of sources, in order. -/
def SharesOf (sources : List (String × String)) (shares : List Share) : Prop :=
  List.Forall₂ (fun source s => Share.Of source.1 source.2 s) sources shares

theorem exists_sharesOf (sources : List (String × String)) : ∃ shares, SharesOf sources shares :=
  exists_forall₂ fun source _ => Share.exists_of source.1 source.2

variable {sources : List (String × String)} {shares : List Share}

theorem absorbAll_registry (h : SharesOf sources shares) (t : Table) :
    (t.absorbAll shares).registry = (t.registry.registerAll (shares.flatMap (·.targets))).2 := by
  induction h generalizing t with
  | nil => rfl
  | cons hs _ ih =>
    rw [absorbAll, List.foldl_cons, ← absorbAll, ih, absorb_registry hs, List.flatMap_cons,
      Registry.registerAll_append]

theorem absorbAll_extends (h : SharesOf sources shares) (t : Table) :
    t.registry.targets <+: (t.absorbAll shares).registry.targets := by
  rw [absorbAll_registry h]
  exact Registry.registerAll_extends _ _

/-- The rules of all shares are added, and go on being what their records stand for. -/
theorem absorbAll_rules (h : SharesOf sources shares) (t : Table) :
    ∃ rules, (t.absorbAll shares).rules = t.rules ++ rules ∧
      List.Forall₂ (fun r rule => (t.absorbAll shares).Gives r.1 r.2 rule)
        (shares.flatMap fun s => s.records.map fun r => (s.file, r)) rules := by
  induction h generalizing t with
  | nil => exact ⟨[], (List.append_nil _).symm, .nil⟩
  | @cons source s sources shares hs hrest ih =>
    obtain ⟨rules, added, given⟩ := absorb_rules hs t
    obtain ⟨more, later, others⟩ := ih (t.absorb s)
    refine ⟨rules ++ more, ?_, ?_⟩
    · rw [absorbAll, List.foldl_cons, ← absorbAll, later, added, List.append_assoc]
    · have kept : List.Forall₂ (fun r rule => ((t.absorb s).absorbAll shares).Gives r.1 r.2 rule)
          (s.records.map fun r => (s.file, r)) rules :=
        List.forall₂_map_left_iff.2
          (given.imp fun _ _ g => g.extend (absorbAll_extends hrest (t.absorb s)))
      exact List.rel_append kept others

theorem absorbAll_resolved {t : Table} (h : t.Resolved) (shares : List Share) :
    (t.absorbAll shares).Resolved := by
  induction shares generalizing t with
  | nil => exact h
  | cons s shares ih => exact ih (absorb_resolved h s)

theorem absorbAll_meanings {t : Table} (h : t.Resolved) (shares : List Share) :
    (t.absorbAll shares).meanings = t.meanings ++ shares.flatMap (·.meanings) := by
  induction shares generalizing t with
  | nil => exact (List.append_nil _).symm
  | cons s shares ih =>
    rw [absorbAll, List.foldl_cons, ← absorbAll, ih (absorb_resolved h s), absorb_meanings h,
      List.append_assoc, List.flatMap_cons]

/-! ## Going on after a fault -/

/-- Adds one source after another, whatever comes of each; gives the errors as well. -/
def feed (t : Table) : List (String × String) → Table × List (Option LoadError)
  | [] => (t, [])
  | (file, text) :: rest =>
    let (t, e) := t.addSource file text
    let (t, es) := t.feed rest
    (t, e :: es)

theorem feed_eq (h : SharesOf sources shares) (t : Table) :
    t.feed sources = (t.absorbAll shares, shares.map (·.error)) := by
  induction h generalizing t with
  | nil => rfl
  | cons hs _ ih =>
    simp only [feed, addSource_eq hs, ih]
    rfl

theorem feed_append (t : Table) (earlier later : List (String × String)) :
    (t.feed (earlier ++ later)).1 = ((t.feed earlier).1.feed later).1 := by
  induction earlier generalizing t with
  | nil => rfl
  | cons source earlier ih => simp only [List.cons_append, feed, ih]

theorem feed_extends (t : Table) (sources : List (String × String)) :
    t.registry.targets <+: (t.feed sources).1.registry.targets := by
  obtain ⟨shares, h⟩ := exists_sharesOf sources
  rw [feed_eq h]
  exact absorbAll_extends h t

/-- What a run of sources leaves, whichever of them fail. The rules are the records before each first
fault, in order and each at its line of its source; all their numbers resolve. The registry lists the
targets of these records and those that a bad target stranded, each of them once and at its first
place. A number that a target was given at any time is what the target is given ever after. -/
theorem feed_leaves (sources : List (String × String)) :
    ∃ t shares, feed {} sources = (t, shares.map (·.error)) ∧ SharesOf sources shares ∧
      List.Forall₂ (fun r rule => t.Gives r.1 r.2 rule)
        (shares.flatMap fun s => s.records.map fun r => (s.file, r)) t.rules ∧
      t.registry.targets =
        (shares.flatMap fun s => s.records.flatMap (Record.named ·.1) ++ s.stranded).eraseDups ∧
      t.registry.targets.Nodup ∧
      (∀ s ∈ shares, s.stranded ≠ [] → ∃ origin content token reason,
        s.error = some (.badRecord origin content (.badTarget token reason))) ∧
      ∀ earlier later, sources = earlier ++ later → ∀ id target,
        (feed {} earlier).1.target? id = some target →
          t.target? id = some target ∧ t.registry.register target = (id, t.registry) ∧
            ∀ rule ∈ t.rules, ∀ other ∈ rule.targets, t.target? other = some target → other = id := by
  obtain ⟨shares, h⟩ := exists_sharesOf sources
  have run := feed_eq h {}
  obtain ⟨rules, added, given⟩ := absorbAll_rules h {}
  have targets : (absorbAll {} shares).registry.targets =
      (shares.flatMap (·.targets)).eraseDups := by
    rw [absorbAll_registry h, Registry.registerAll_empty_targets]
  have distinct : (absorbAll {} shares).registry.targets.Nodup := by
    rw [targets]
    exact Registry.nodup_eraseDups _
  refine ⟨absorbAll {} shares, shares, run, h, ?_, targets, distinct, fun s hs => ?_, ?_⟩
  · rw [added]
    exact given
  · obtain ⟨source, -, of⟩ := exists_left_of_forall₂ h hs
    exact of.error_of_stranded
  · rintro earlier later rfl id target hid
    have grown : (feed {} earlier).1.registry.targets <+: (absorbAll {} shares).registry.targets := by
      have later := feed_extends (feed {} earlier).1 later
      rwa [← feed_append, run] at later
    have stays : (absorbAll {} shares).target? id = some target :=
      (Registry.get?_of_extends grown (Registry.lt_size_of_get? hid)).trans hid
    exact ⟨stays, Registry.register_of_get? distinct stays,
      fun _ _ _ _ same => Registry.get?_inj distinct same stays⟩

/-- Of four sources the first three fail: at its second target, at its third, and at the indicator. The
number of a target that the second source strands is the one that the fourth source uses. -/
theorem feed_leaves_stranded :
    let sources := [("a", "/a + h:1 k:2\n/b - h:1 x\n/c + z:9"), ("b", "\n/b - m:3 k:2/p m:\n"),
      ("c", "/c * q:1"), ("d", "#\n/d + k:2/p m:03\n")]
    let t := (feed {} sources).1
    t = ⟨[⟨"a", false, [⟨0⟩, ⟨1⟩], ⟨"a", 1⟩⟩, ⟨"d", false, [⟨3⟩, ⟨2⟩], ⟨"d", 2⟩⟩],
        ⟨[⟨"h", 1, none⟩, ⟨"k", 2, none⟩, ⟨"m", 3, none⟩, ⟨"k", 2, some "/p"⟩]⟩⟩ ∧
      t.registry.register ⟨"m", 3, none⟩ = (⟨2⟩, t.registry) := by
  intro sources t
  obtain ⟨u, shares, run, -, -, -, -, -, stays⟩ := feed_leaves sources
  have same : t = u := congrArg Prod.fst run
  rw [← same] at stays
  have stranded : (feed {} (sources.take 2)).1.target? ⟨2⟩ = some ⟨"m", 3, none⟩ := by
    decide +kernel
  obtain ⟨-, again, -⟩ :=
    stays (sources.take 2) (sources.drop 2) (List.take_append_drop 2 sources).symm _ _ stranded
  exact ⟨by decide +kernel, again⟩

/-! ## Stopping at the first fault -/

/-- Every line of the source is blank or a record. -/
def IsSound (source : String × String) : Prop :=
  ∀ line ∈ lines source.2, Record.Grammatical (Record.fields line)

/-- The share of a sound source. -/
def wholeShare (source : String × String) : Share := ⟨source.1, lines source.2, [], none⟩

theorem IsSound.share_of {source : String × String} (h : IsSound source) :
    Share.Of source.1 source.2 (wholeShare source) := .whole h

/-- The first faulty line of a source that is not sound. -/
theorem exists_first_fault {source : String × String} (h : ¬ IsSound source) :
    ∃ front line back fault ts, lines source.2 = front ++ line :: back ∧
      (∀ l ∈ front, Record.Grammatical (Record.fields l)) ∧
      Record.Faulty (Record.fields line) fault ts := by
  rcases forall_or_first (fun l => Record.Grammatical (Record.fields l)) (lines source.2) with
    all | ⟨front, line, back, split, good, bad⟩
  · exact absurd all h
  · obtain ⟨fault, ts, faulty⟩ := Record.exists_faulty bad
    exact ⟨front, line, back, fault, ts, split, good, faulty⟩

theorem sharesOf_sound (h : ∀ source ∈ sources, IsSound source) :
    SharesOf sources (sources.map wholeShare) :=
  List.forall₂_map_right_iff.2 (List.forall₂_same.2 fun source hs => (h source hs).share_of)

theorem addSources_sound (h : ∀ source ∈ sources, IsSound source) (t : Table) :
    t.addSources sources = .ok (t.absorbAll (sources.map wholeShare)) := by
  induction sources generalizing t with
  | nil => rfl
  | cons source sources ih =>
    rw [addSources, addSource_eq (h source (List.mem_cons_self ..)).share_of]
    exact ih (fun s hs => h s (List.mem_cons_of_mem _ hs)) _

theorem ofText_sound {source : String × String} (h : IsSound source) :
    ofText source.1 source.2 = .ok (absorb {} (wholeShare source)) :=
  ofText_eq h.share_of

theorem addSources_error {before after : List (String × String)} {source : String × String}
    {s : Share} {e : LoadError} (h : ∀ source ∈ before, IsSound source)
    (of : Share.Of source.1 source.2 s) (failed : s.error = some e) (t : Table) :
    t.addSources (before ++ source :: after) = .error e := by
  induction before generalizing t with
  | nil => rw [List.nil_append, addSources, addSource_eq of, failed]
  | cons first before ih =>
    rw [List.cons_append, addSources, addSource_eq (h first (List.mem_cons_self ..)).share_of]
    exact ih (fun s hs => h s (List.mem_cons_of_mem _ hs)) _

/-! ## One text for all -/

/-- Texts with line feeds between them. -/
def joined : List String → String
  | [] => ""
  | [text] => text
  | text :: rest => text ++ "\n" ++ joined rest

example (a b : String) : joined [a, b] = a ++ "\n" ++ b := rfl

/-- The lines of joined texts are their lines, wherever a text ends. -/
theorem lines_joined {texts : List String} (h : texts ≠ []) :
    lines (joined texts) = texts.flatMap lines := by
  induction texts with
  | nil => exact absurd rfl h
  | cons text rest ih =>
    cases rest with
    | nil => simp [joined]
    | cons next rest =>
      have seam : (joined (text :: next :: rest)).toList =
          text.toList ++ '\n' :: (joined (next :: rest)).toList := by
        simp [joined]
      rw [lines, seam, List.splitOn_append_cons_self, List.flatMap_cons, ← ih (by simp)]
      rfl

theorem lines_joined_sources (h : sources ≠ []) :
    lines (joined (sources.map (·.2))) = sources.flatMap fun source => lines source.2 := by
  rw [lines_joined (by simpa using h), List.flatMap_map]

theorem isSound_joined (h : ∀ source ∈ sources, IsSound source) (file : String) :
    IsSound (file, joined (sources.map (·.2))) := by
  intro line hline
  cases sources with
  | nil =>
    have blank : line = [] := by simpa [joined, lines] using hline
    rw [blank]
    exact .blank
  | cons first rest =>
    rw [lines_joined_sources (by simp)] at hline
    obtain ⟨source, hs, hl⟩ := List.mem_flatMap.1 hline
    exact h source hs line hl

theorem wholeShare_joined (h : sources ≠ []) (file : String) :
    wholeShare (file, joined (sources.map (·.2))) =
      ⟨file, sources.flatMap fun source => lines source.2, [], none⟩ := by
  rw [wholeShare, lines_joined_sources h]

theorem targets_wholeShare_joined (sources : List (String × String)) (file : String) :
    (wholeShare (file, joined (sources.map (·.2)))).targets =
      (sources.map wholeShare).flatMap (·.targets) := by
  cases sources with
  | nil => rfl
  | cons first rest =>
    rw [wholeShare_joined (by simp)]
    simp [Share.targets_eq, wholeShare, List.flatMap_assoc, List.flatMap_map]

theorem meanings_wholeShare_joined (sources : List (String × String)) (file : String) :
    (wholeShare (file, joined (sources.map (·.2)))).meanings =
      (sources.map wholeShare).flatMap (·.meanings) := by
  cases sources with
  | nil => rfl
  | cons first rest =>
    rw [wholeShare_joined (by simp)]
    simp [Share.meanings, wholeShare, List.filterMap_flatMap, List.flatMap_map]

/-- What the plans of several tables send, when their rules stand one after another in one table. -/
theorem sends_flatMap {ι : Type} {u : Table} {is : List ι} {tables : ι → Table}
    (h : u.meanings = is.flatMap fun i => (tables i).meanings) (address : String) :
    (u.plan address).map (fun f => (f.target, f.path)) =
      is.flatMap fun i => ((tables i).plan address).map fun f => (f.target, f.path) := by
  simp only [sends_plan, h, List.filter_flatMap, List.flatMap_assoc]

theorem absorb_joined_meanings (sources : List (String × String)) (file : String) :
    (absorb {} (wholeShare (file, joined (sources.map (·.2))))).meanings =
      (absorbAll {} (sources.map wholeShare)).meanings := by
  rw [absorb_meanings empty_resolved, absorbAll_meanings empty_resolved, meanings_wholeShare_joined]

theorem absorb_joined_registry (sound : ∀ source ∈ sources, IsSound source) (file : String) :
    (absorb {} (wholeShare (file, joined (sources.map (·.2))))).registry =
      (absorbAll {} (sources.map wholeShare)).registry := by
  rw [absorbAll_registry (sharesOf_sound sound), absorb_registry (isSound_joined sound file).share_of,
    targets_wholeShare_joined]

/-- In the joined text, a faulty line stands behind all lines of the sources before its own. -/
theorem share_of_joined {before : List (String × String)} {source : String × String}
    (after : List (String × String)) {front back : List (List Char)} {line : List Char}
    {fault : RecordError} {ts : List Target}
    (sound : ∀ s ∈ before, IsSound s) (split : lines source.2 = front ++ line :: back)
    (good : ∀ l ∈ front, Record.Grammatical (Record.fields l))
    (faulty : Record.Faulty (Record.fields line) fault ts) (file : String) :
    Share.Of file (joined ((before ++ source :: after).map (·.2)))
      ⟨file, (before.flatMap fun s => lines s.2) ++ front, ts, some (.badRecord
        ⟨file, ((before.flatMap fun s => lines s.2) ++ front).length + 1⟩
        (String.ofList (Text.trim (Record.content line))) fault)⟩ := by
  have joined_split : lines (joined ((before ++ source :: after).map (·.2))) =
      ((before.flatMap fun s => lines s.2) ++ front) ++
        line :: (back ++ after.flatMap fun s => lines s.2) := by
    rw [lines_joined_sources (by simp), List.flatMap_append, List.flatMap_cons, split]
    simp
  refine .broken joined_split (fun l hl => ?_) faulty
  rcases List.mem_append.1 hl with hl | hl
  · obtain ⟨s, hs, hl⟩ := List.mem_flatMap.1 hl
    exact sound s hs l hl
  · exact good l hl

/-- Compiling sources one after another does the same as compiling their texts as one, under any
name. Either both succeed; then the tables are the same, with the same registry, and a message is
sent to the targets of the first text, then to those of the second, and so on. Or both fail, with
the same fault of the same record: the first of the first source that fails by itself. Its line is
counted on over the sources before. -/
theorem addSources_joined (file : String) (sources : List (String × String)) :
    match addSources {} sources with
    | .ok t => ∃ u alone, ofText file (joined (sources.map (·.2))) = .ok u ∧
        List.Forall₂ (fun source v => ofText source.1 source.2 = .ok v) sources alone ∧
        t.same u = true ∧ t.registry = u.registry ∧
        ∀ address, (u.plan address).map (fun f => (f.target, f.path)) =
          alone.flatMap fun v => (v.plan address).map fun f => (f.target, f.path)
    | .error e => ∃ before source after line content fault, sources = before ++ source :: after ∧
        (∀ s ∈ before, ∃ v, ofText s.1 s.2 = .ok v) ∧ ofText source.1 source.2 = .error e ∧
        e = .badRecord ⟨source.1, line⟩ content fault ∧
        ofText file (joined (sources.map (·.2))) = .error (.badRecord
          ⟨file, (before.flatMap fun s => lines s.2).length + line⟩ content fault) := by
  rcases forall_or_first IsSound sources with sound | ⟨before, source, after, rfl, sound, bad⟩
  · have meanings := absorb_joined_meanings sources file
    have same := same_of_meanings (absorbAll_resolved empty_resolved (sources.map wholeShare))
      (absorb_resolved empty_resolved _) meanings.symm
    rw [addSources_sound sound]
    refine ⟨_, sources.map fun source => absorb {} (wholeShare source),
      ofText_sound (isSound_joined sound file), ?_, same, (absorb_joined_registry sound file).symm,
      fun address => ?_⟩
    · exact List.forall₂_map_right_iff.2
        (List.forall₂_same.2 fun source hs => ofText_sound (sound source hs))
    · rw [List.flatMap_map]
      refine sends_flatMap ?_ address
      rw [meanings, absorbAll_meanings empty_resolved, List.flatMap_map]
      exact List.flatMap_congr fun source _ => (absorb_meanings empty_resolved _).symm
  · obtain ⟨front, line, back, fault, ts, split, good, faulty⟩ := exists_first_fault bad
    have alone : ofText source.1 source.2 = .error (.badRecord ⟨source.1, front.length + 1⟩
        (String.ofList (Text.trim (Record.content line))) fault) :=
      ofText_eq (.broken split good faulty)
    have whole := ofText_eq (share_of_joined after sound split good faulty file)
    rw [addSources_error sound (.broken split good faulty) rfl]
    refine ⟨before, source, after, front.length + 1, _, fault, rfl,
      fun s hs => ⟨_, ofText_sound (sound s hs)⟩, alone, rfl, ?_⟩
    rw [whole, List.length_append, Nat.add_assoc]

end Table

end Patchbay
