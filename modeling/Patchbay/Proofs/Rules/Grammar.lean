/-
The grammar of records, and which fault a line that is no record has. Both are relations on the
fields of a line and do not speak of the reader; the reader is shown to decide them: a line gives a
fault exactly if it is not grammatical, and the fault is the first one in the order field count,
head, indicator, targets from the left.

A text then gives a table if and only if all its lines are grammatical. `Record.located` are the
records of lines with their numbers, and `Table.Gives` says which rule of a table such a record
stands for.
-/
import Patchbay.Proofs.Rules.Compile

namespace Patchbay

namespace Record

/-! ## The grammar -/

/-- The field spells the head: one segment, and slashes around it that do not count. -/
def Spells (field head : String) : Prop :=
  head ≠ "" ∧ '/' ∉ head.toList ∧
    ∃ i j, field.toList = List.replicate i '/' ++ head.toList ++ List.replicate j '/'

/-- The fields of a blank line or of a record. -/
inductive Grammatical : List String → Prop
  | blank : Grammatical []
  | record {first second head : String} {tokens : List String} (spelled : Spells first head)
      (flag : second = "+" ∨ second = "-") (some_token : tokens ≠ [])
      (all_targets : ∀ token ∈ tokens, ∃ t, Target.parse token = .ok t) :
      Grammatical (first :: second :: tokens)

/-- The first fault of the fields of a line, and the targets that are named before it. -/
inductive Faulty : List String → RecordError → List Target → Prop
  | tooFewFields {fs : List String} (some_field : fs ≠ []) (few : fs.length < 3) :
      Faulty fs .tooFewFields []
  | emptyHead {first second : String} {tokens : List String} (some_token : tokens ≠ [])
      (slashes : ∀ c ∈ first.toList, c = '/') : Faulty (first :: second :: tokens) .emptyHead []
  | severalSegments {first second : String} {tokens : List String} (some_token : tokens ≠ [])
      (not_slashes : ∃ c ∈ first.toList, c ≠ '/') (unspelled : ∀ head, ¬ Spells first head) :
      Faulty (first :: second :: tokens) .severalSegments []
  | badIndicator {first second head : String} {tokens : List String} (some_token : tokens ≠ [])
      (spelled : Spells first head) (no_flag : second ≠ "+" ∧ second ≠ "-") :
      Faulty (first :: second :: tokens) (.badIndicator second) []
  | badTarget {first second head bad : String} {good more : List String} {ts : List Target}
      {reason : Target.ParseError} (spelled : Spells first head) (flag : second = "+" ∨ second = "-")
      (parsed : List.Forall₂ (fun token t => Target.parse token = .ok t) good ts)
      (refused : Target.parse bad = .error reason) :
      Faulty (first :: second :: (good ++ bad :: more)) (.badTarget bad reason) ts

/-! ## Reading decides the grammar -/

theorem strip_slashes_eq_iff {field head : String} :
    Text.strip (· == '/') field.toList = head.toList ∧ '/' ∉ head.toList ↔
      '/' ∉ head.toList ∧
        ∃ i j, field.toList = List.replicate i '/' ++ head.toList ++ List.replicate j '/' := by
  constructor
  · rintro ⟨hstrip, hslash⟩
    obtain ⟨front, back, hcs, hf, hb⟩ := Text.exists_strip (· == '/') field.toList
    rw [hstrip] at hcs
    refine ⟨hslash, front.length, back.length, ?_⟩
    rw [← List.eq_replicate_of_mem fun c hc => beq_iff_eq.1 (hf c hc),
      ← List.eq_replicate_of_mem fun c hc => beq_iff_eq.1 (hb c hc)]
    exact hcs
  · rintro ⟨hslash, i, j, hcs⟩
    refine ⟨?_, hslash⟩
    rw [hcs]
    refine Text.strip_append (by simp) (fun c hc => ?_) (by simp)
    simpa using fun hs : c = '/' => hslash (hs ▸ hc)

theorem head_eq_ok_iff_spells {field head : String} :
    Record.head field = .ok head ↔ Spells field head := by
  rw [head_eq_ok_iff, Spells, ← strip_slashes_eq_iff]
  constructor
  · rintro ⟨hstrip, hne, hslash⟩
    exact ⟨hne, hstrip, hslash⟩
  · rintro ⟨hne, hstrip, hslash⟩
    exact ⟨hstrip, hne, hslash⟩

/-- Why a field is no head: it holds slashes only, or more than one segment. -/
theorem head_eq_error_iff {field : String} {fault : RecordError} :
    Record.head field = .error fault ↔
      (fault = .emptyHead ∧ ∀ c ∈ field.toList, c = '/') ∨
        (fault = .severalSegments ∧ (∃ c ∈ field.toList, c ≠ '/') ∧ ∀ head, ¬ Spells field head) := by
  have slashes : Text.strip (· == '/') field.toList = [] ↔ ∀ c ∈ field.toList, c = '/' := by
    rw [Text.strip_eq_nil_iff]
    simp only [beq_iff_eq]
  constructor
  · intro h
    have unspelled : ∀ head, ¬ Spells field head := by
      intro head hs
      rw [head_eq_ok_iff_spells.2 hs] at h
      cases h
    unfold Record.head at h
    simp only [List.isEmpty_iff] at h
    split_ifs at h with hempty hslash
    · cases h
      exact .inl ⟨rfl, slashes.1 hempty⟩
    · cases h
      have some_char := mt slashes.2 hempty
      push Not at some_char
      exact .inr ⟨rfl, some_char, unspelled⟩
  · rintro (⟨rfl, all⟩ | ⟨rfl, some_char, unspelled⟩)
    · simp [Record.head, slashes.2 all]
    · have hempty : Text.strip (· == '/') field.toList ≠ [] := by
        intro hnil
        obtain ⟨c, hc, hne⟩ := some_char
        exact hne (slashes.1 hnil c hc)
      cases hr : Record.head field with
      | ok head => exact absurd (head_eq_ok_iff_spells.1 hr) (unspelled head)
      | error fault =>
        unfold Record.head at hr
        simp only [List.isEmpty_iff, if_neg hempty] at hr
        split_ifs at hr
        rw [hr]

theorem indicator?_eq_none_iff {token : String} :
    indicator? token = none ↔ token ≠ "+" ∧ token ≠ "-" := by
  unfold indicator? indicator
  split_ifs with h1 h2 <;> simp_all

theorem exists_indicator_iff {token : String} :
    (∃ truncate, token = indicator truncate) ↔ token = "+" ∨ token = "-" := by
  simp [indicator]

theorem heading_eq_error_iff {first second : String} {fault : RecordError} :
    heading first second = .error fault ↔
      Record.head first = .error fault ∨
        (∃ head, Spells first head) ∧ (second ≠ "+" ∧ second ≠ "-") ∧
          fault = .badIndicator second := by
  simp only [← head_eq_ok_iff_spells, ← indicator?_eq_none_iff]
  unfold heading
  cases Record.head first with
  | error fault' => simp [bind, Except.bind]
  | ok segment =>
    cases indicator? second <;> simp [bind, Except.bind, pure, Except.pure, eq_comm]

/-- The targets before the first token that stands for none. -/
theorem targets_eq_some_iff {tokens : List String} {ts : List Target} {fault : RecordError} :
    Record.targets tokens = (ts, some fault) ↔
      ∃ good bad more reason, tokens = good ++ bad :: more ∧
        List.Forall₂ (fun token t => Target.parse token = .ok t) good ts ∧
        Target.parse bad = .error reason ∧ fault = .badTarget bad reason := by
  induction tokens generalizing ts with
  | nil => simp [Record.targets]
  | cons token tokens ih =>
    cases hp : Target.parse token with
    | error reason =>
      simp only [Record.targets, hp, Prod.mk.injEq, Option.some.injEq]
      constructor
      · rintro ⟨rfl, rfl⟩
        exact ⟨[], token, tokens, reason, rfl, .nil, hp, rfl⟩
      · rintro ⟨good, bad, more, reason', htokens, parsed, refused, rfl⟩
        cases parsed with
        | nil =>
          cases htokens
          rw [hp] at refused
          cases refused
          exact ⟨rfl, rfl⟩
        | cons first _ =>
          cases htokens
          rw [hp] at first
          cases first
    | ok t =>
      constructor
      · intro h
        rcases hrest : Record.targets tokens with ⟨us, fault'⟩
        simp only [Record.targets, hp, hrest, Prod.mk.injEq] at h
        obtain ⟨rfl, rfl⟩ := h
        obtain ⟨good, bad, more, reason, rfl, parsed, refused, rfl⟩ := ih.1 hrest
        exact ⟨token :: good, bad, more, reason, rfl, .cons hp parsed, refused, rfl⟩
      · rintro ⟨good, bad, more, reason, htokens, parsed, refused, rfl⟩
        cases parsed with
        | nil =>
          cases htokens
          rw [hp] at refused
          cases refused
        | cons first parsed =>
          cases htokens
          rw [hp] at first
          cases first
          have rest := ih.2 ⟨_, bad, more, reason, rfl, parsed, refused, rfl⟩
          simp only [Record.targets, hp, rest]

theorem readFields_of_few {fs : List String} (some_field : fs ≠ []) (few : fs.length < 3) :
    readFields fs = .faulty .tooFewFields [] := by
  rcases fs with _ | ⟨first, _ | ⟨second, _ | ⟨token, tokens⟩⟩⟩
  · exact absurd rfl some_field
  · rfl
  · rfl
  · simp only [List.length_cons] at few
    omega

theorem readFields_of_tokens (first second : String) {tokens : List String} (h : tokens ≠ []) :
    readFields (first :: second :: tokens) = match heading first second with
      | .error fault => .faulty fault []
      | .ok (segment, truncate) => match Record.targets tokens with
        | (ts, none) => .rule segment truncate ts
        | (ts, some fault) => .faulty fault ts := by
  obtain ⟨token, more, rfl⟩ := List.exists_cons_of_ne_nil h
  rfl

/-- No field at all, too few of them, or at least three. -/
theorem fields_cases (fs : List String) :
    fs = [] ∨ (fs ≠ [] ∧ fs.length < 3) ∨
      ∃ first second tokens, tokens ≠ [] ∧ fs = first :: second :: tokens := by
  rcases fs with _ | ⟨first, _ | ⟨second, _ | ⟨token, tokens⟩⟩⟩
  · exact .inl rfl
  · exact .inr (.inl ⟨by simp, by simp⟩)
  · exact .inr (.inl ⟨by simp, by simp⟩)
  · exact .inr (.inr ⟨first, second, token :: tokens, by simp, rfl⟩)

theorem faulty_of_readFields {fs : List String} {fault : RecordError} {ts : List Target}
    (h : readFields fs = .faulty fault ts) : Faulty fs fault ts := by
  rcases fields_cases fs with rfl | ⟨some_field, few⟩ | ⟨first, second, tokens, some_token, rfl⟩
  · cases h
  · rw [readFields_of_few some_field few] at h
    cases h
    exact .tooFewFields some_field few
  · rw [readFields_of_tokens first second some_token] at h
    cases hheading : heading first second with
    | error fault' =>
      rw [hheading] at h
      cases h
      rcases heading_eq_error_iff.1 hheading with hhead | ⟨⟨head, spelled⟩, no_flag, rfl⟩
      · rcases head_eq_error_iff.1 hhead with ⟨rfl, all⟩ | ⟨rfl, some_char, unspelled⟩
        · exact .emptyHead some_token all
        · exact .severalSegments some_token some_char unspelled
      · exact .badIndicator some_token spelled no_flag
    | ok heading =>
      obtain ⟨hhead, hflag⟩ := heading_eq_ok_iff.1 hheading
      rcases ht : Record.targets tokens with ⟨us, _ | fault'⟩
      · simp only [hheading, ht] at h
        cases h
      · simp only [hheading, ht] at h
        cases h
        obtain ⟨good, bad, more, reason, rfl, parsed, refused, rfl⟩ := targets_eq_some_iff.1 ht
        exact .badTarget (head_eq_ok_iff_spells.1 hhead) (exists_indicator_iff.1 ⟨_, hflag⟩)
          parsed refused

theorem readFields_of_faulty {fs : List String} {fault : RecordError} {ts : List Target}
    (h : Faulty fs fault ts) : readFields fs = .faulty fault ts := by
  cases h with
  | tooFewFields some_field few => exact readFields_of_few some_field few
  | emptyHead some_token slashes =>
    have hhead := head_eq_error_iff.2 (.inl ⟨rfl, slashes⟩)
    simp only [readFields_of_tokens _ _ some_token, heading_eq_error_iff.2 (.inl hhead)]
  | severalSegments some_token not_slashes unspelled =>
    have hhead := head_eq_error_iff.2 (.inr ⟨rfl, not_slashes, unspelled⟩)
    simp only [readFields_of_tokens _ _ some_token, heading_eq_error_iff.2 (.inl hhead)]
  | badIndicator some_token spelled no_flag =>
    have hheading := heading_eq_error_iff.2 (.inr ⟨⟨_, spelled⟩, no_flag, rfl⟩)
    simp only [readFields_of_tokens _ _ some_token, hheading]
  | @badTarget _ _ _ bad good more _ reason spelled flag parsed refused =>
    obtain ⟨truncate, hflag⟩ := exists_indicator_iff.2 flag
    have hheading := heading_eq_ok_iff.2 ⟨head_eq_ok_iff_spells.2 spelled, hflag⟩
    have ht := targets_eq_some_iff.2 ⟨good, bad, more, reason, rfl, parsed, refused, rfl⟩
    have some_token : good ++ bad :: more ≠ [] := by simp
    simp only [readFields_of_tokens _ _ some_token, hheading, ht]

/-- Reading finds the first fault, and the targets before it. -/
theorem readFields_eq_faulty_iff {fs : List String} {fault : RecordError} {ts : List Target} :
    readFields fs = .faulty fault ts ↔ Faulty fs fault ts :=
  ⟨faulty_of_readFields, readFields_of_faulty⟩

theorem isSound_iff {line : List Char} : IsSound line ↔ Grammatical (fields line) := by
  unfold IsSound read
  generalize fields line = fs
  constructor
  · intro h
    rcases fields_cases fs with rfl | ⟨some_field, few⟩ | ⟨first, second, tokens, some_token, rfl⟩
    · exact .blank
    · exact absurd (readFields_of_few some_field few) (h _ _)
    · cases hread : readFields (first :: second :: tokens) with
      | blank => exact absurd (readFields_eq_blank_iff.1 hread) (List.cons_ne_nil _ _)
      | faulty fault ts => exact absurd hread (h fault ts)
      | rule head truncate ts =>
        obtain ⟨first', tokens', heq, hne, hhead, parsed⟩ := readFields_eq_rule_iff.1 hread
        cases heq
        refine .record (head_eq_ok_iff_spells.1 hhead) (exists_indicator_iff.1 ⟨_, rfl⟩) hne ?_
        intro token hm
        obtain ⟨t, -, hp⟩ := exists_left_of_forall₂ parsed.flip hm
        exact ⟨t, hp⟩
  · intro h fault ts hread
    cases h with
    | blank => cases hread
    | record spelled flag some_token all_targets =>
      obtain ⟨truncate, rfl⟩ := exists_indicator_iff.2 flag
      obtain ⟨us, parsed⟩ := exists_forall₂ all_targets
      rw [readFields_eq_rule_iff.2
        ⟨_, _, rfl, some_token, head_eq_ok_iff_spells.2 spelled, parsed⟩] at hread
      cases hread

/-- Only before a bad target are there targets. -/
theorem Faulty.badTarget_of_ne_nil {fs : List String} {fault : RecordError} {ts : List Target}
    (h : Faulty fs fault ts) (hne : ts ≠ []) : ∃ token reason, fault = .badTarget token reason := by
  cases h with
  | badTarget => exact ⟨_, _, rfl⟩
  | tooFewFields | emptyHead | severalSegments | badIndicator => exact absurd rfl hne

theorem Faulty.not_grammatical {line : List Char} {fault : RecordError} {ts : List Target}
    (h : Faulty (fields line) fault ts) : ¬ Grammatical (fields line) :=
  fun good => isSound_iff.2 good fault ts (readFields_of_faulty h)

end Record

end Patchbay
