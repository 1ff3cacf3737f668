/-
Single records: what a line must look like to give a rule, what such a rule can ask for, and the
canonical line of a rule, which is read back as that rule.
-/
import Patchbay.Proofs.Rules.Target
import Patchbay.Proofs.Text.Words
import Patchbay.Rule
import Mathlib.Data.List.Forall2
import Mathlib.Data.List.TakeWhile

namespace Patchbay

/-! ## Lists side by side -/

/-- What stands on the right has a partner on the left. -/
theorem exists_left_of_forall₂ {α β : Type} {R : α → β → Prop} {as : List α} {bs : List β}
    (h : List.Forall₂ R as bs) {b : β} (hb : b ∈ bs) : ∃ a ∈ as, R a b := by
  induction h with
  | nil => cases hb
  | cons hab _ ih =>
    rcases List.mem_cons.1 hb with rfl | hb
    · exact ⟨_, List.mem_cons_self .., hab⟩
    · obtain ⟨a, ha, hr⟩ := ih hb
      exact ⟨a, List.mem_cons_of_mem _ ha, hr⟩

theorem exists_forall₂ {α β : Type} {R : α → β → Prop} {as : List α} (h : ∀ a ∈ as, ∃ b, R a b) :
    ∃ bs, List.Forall₂ R as bs := by
  induction as with
  | nil => exact ⟨[], .nil⟩
  | cons a as ih =>
    obtain ⟨b, hb⟩ := h a (List.mem_cons_self ..)
    obtain ⟨bs, hbs⟩ := ih fun k hk => h k (List.mem_cons_of_mem _ hk)
    exact ⟨b :: bs, .cons hb hbs⟩

theorem forall₂_comp {α β γ : Type} {R : α → β → Prop} {S : β → γ → Prop} {as : List α}
    {bs : List β} {cs : List γ} (h : List.Forall₂ R as bs) (k : List.Forall₂ S bs cs) :
    List.Forall₂ (fun a c => ∃ b, R a b ∧ S b c) as cs := by
  induction h generalizing cs with
  | nil => cases k; exact .nil
  | cons hab _ ih =>
    cases k with
    | cons hbc k => exact .cons ⟨_, hab, hbc⟩ (ih k)

/-- All elements are good, or there is a first one that is not. -/
theorem forall_or_first {α : Type} (P : α → Prop) (as : List α) :
    (∀ a ∈ as, P a) ∨
      ∃ before a after, as = before ++ a :: after ∧ (∀ b ∈ before, P b) ∧ ¬ P a := by
  induction as with
  | nil => exact .inl nofun
  | cons a as ih =>
    by_cases ha : P a
    · rcases ih with all | ⟨before, bad, after, rfl, good, hbad⟩
      · exact .inl (List.forall_mem_cons.2 ⟨ha, all⟩)
      · exact .inr ⟨a :: before, bad, after, rfl, List.forall_mem_cons.2 ⟨ha, good⟩, hbad⟩
    · exact .inr ⟨[], a, as, rfl, nofun, ha⟩

namespace Record

/-! ## Fields -/

/-- A character that can stand within a field. -/
def IsPlain (c : Char) : Prop := Text.isBlank c = false ∧ c ≠ '#'

theorem isPlain_of_isDigit {c : Char} (h : c.isDigit = true) : IsPlain c := by
  have bounds : 48 ≤ c.toNat ∧ c.toNat ≤ 57 := Char.isDigit_iff_toNat.1 h
  constructor
  · -- digits lie between the space and the blanks from U+0085 on
    simp only [Text.isBlank, Text.inRanges, Text.blankRanges, List.any_cons, List.any_nil,
      Bool.or_false, Bool.or_eq_false_iff, Bool.and_eq_false_iff, decide_eq_false_iff_not]
    omega
  · rintro rfl
    exact absurd h (by decide)

theorem field_plain {line : List Char} {field : String} (h : field ∈ fields line) :
    field ≠ "" ∧ ∀ c ∈ field.toList, IsPlain c := by
  obtain ⟨w, hw, rfl⟩ := List.mem_map.1 h
  obtain ⟨hne, hv⟩ := Text.isWord_of_mem_words hw
  refine ⟨by simpa using hne, fun c hc => ?_⟩
  rw [String.toList_ofList] at hc
  refine ⟨hv c hc, fun hash => ?_⟩
  have hm := List.mem_takeWhile_imp (Text.mem_of_mem_words hw hc)
  simp [hash] at hm

theorem indicator?_eq_some_iff {token : String} {truncate : Bool} :
    indicator? token = some truncate ↔ token = indicator truncate := by
  unfold indicator?
  split_ifs with h1 h2
  · subst h1; cases truncate <;> simp [indicator]
  · subst h2; cases truncate <;> simp [indicator]
  · cases truncate
    · simp [h1]
    · simp [h2]

theorem head_eq_ok_iff {field head : String} :
    Record.head field = .ok head ↔
      Text.strip (· == '/') field.toList = head.toList ∧ head ≠ "" ∧ '/' ∉ head.toList := by
  unfold Record.head
  simp only [List.isEmpty_iff, List.contains_eq_mem, decide_eq_true_eq]
  split_ifs with h1 h2
  · simp only [false_iff]
    rintro ⟨he, hne, -⟩
    exact hne (String.toList_eq_nil_iff.1 (he.symm.trans h1))
  · simp only [false_iff]
    rintro ⟨he, -, hs⟩
    exact hs (he ▸ h2)
  · constructor
    · rintro h
      cases h
      exact ⟨String.toList_ofList.symm, by simpa using h1, by simpa using h2⟩
    · rintro ⟨he, -⟩
      rw [he, String.ofList_toList]

theorem targets_eq_iff {tokens : List String} {ts : List Target} :
    Record.targets tokens = (ts, none) ↔
      List.Forall₂ (fun token t => Target.parse token = .ok t) tokens ts := by
  induction tokens generalizing ts with
  | nil => cases ts <;> simp [Record.targets]
  | cons token tokens ih =>
    cases hp : Target.parse token with
    | error reason => cases ts <;> simp [Record.targets, hp]
    | ok t =>
      cases ts with
      | nil => simp [Record.targets, hp]
      | cons u us =>
        rw [List.forall₂_cons, ← ih, hp]
        simp only [Record.targets, hp]
        rcases Record.targets tokens with ⟨read, fault⟩
        simp [and_assoc]

theorem heading_eq_ok_iff {first second head : String} {truncate : Bool} :
    heading first second = .ok (head, truncate) ↔
      Record.head first = .ok head ∧ second = indicator truncate := by
  unfold heading
  rw [← indicator?_eq_some_iff]
  cases Record.head first with
  | error fault => simp [bind, Except.bind]
  | ok segment => cases indicator? second <;> simp [bind, Except.bind, pure, Except.pure]

/-- A record that gives a rule: a head, an indicator, and target tokens. -/
theorem readFields_eq_rule_iff {fs : List String} {head : String} {truncate : Bool}
    {ts : List Target} :
    readFields fs = .rule head truncate ts ↔
      ∃ first tokens, fs = first :: indicator truncate :: tokens ∧ tokens ≠ [] ∧
        Record.head first = .ok head ∧
        List.Forall₂ (fun token t => Target.parse token = .ok t) tokens ts := by
  rcases fs with _ | ⟨first, _ | ⟨second, _ | ⟨token, tokens⟩⟩⟩
  · simp [readFields]
  · simp [readFields]
  · simp [readFields]
  · constructor
    · intro h
      simp only [readFields] at h
      split at h
      · cases h
      · rename_i segment flag hh
        split at h
        · rename_i read ht
          cases h
          obtain ⟨hseg, rfl⟩ := heading_eq_ok_iff.1 hh
          exact ⟨first, token :: tokens, rfl, by simp, hseg, targets_eq_iff.1 ht⟩
        · cases h
    · rintro ⟨first', tokens', heq, -, hseg, ht⟩
      cases heq
      simp only [readFields, heading_eq_ok_iff.2 ⟨hseg, rfl⟩, targets_eq_iff.2 ht]

/-! ## What a record asks for -/

structure Meaning where
  head : String
  truncate : Bool
  targets : List Target

namespace Meaning

/-- The canonical line of a record. -/
def text (r : Meaning) : String :=
  "/" ++ r.head ++ " " ++ indicator r.truncate ++
    String.join (r.targets.map fun t => " " ++ t.text)

/-- What some line can ask for. -/
structure Writable (r : Meaning) : Prop where
  head_ne : r.head ≠ ""
  head_slash : '/' ∉ r.head.toList
  head_plain : ∀ c ∈ r.head.toList, IsPlain c
  targets_ne : r.targets ≠ []
  wellFormed : ∀ t ∈ r.targets, t.WellFormed
  targets_plain : ∀ t ∈ r.targets, ∀ c ∈ t.text.toList, IsPlain c

end Meaning

theorem writable_of_read {line : List Char} {head : String} {truncate : Bool} {ts : List Target}
    (h : read line = .rule head truncate ts) : Meaning.Writable ⟨head, truncate, ts⟩ := by
  obtain ⟨first, tokens, hfields, hne, hhead, htargets⟩ := readFields_eq_rule_iff.1 h
  obtain ⟨hstrip, hhead_ne, hslash⟩ := head_eq_ok_iff.1 hhead
  have plain : ∀ field ∈ first :: indicator truncate :: tokens, ∀ c ∈ field.toList, IsPlain c :=
    fun field hf => (field_plain (hfields ▸ hf)).2
  have token_of : ∀ t ∈ ts, ∃ token ∈ tokens, Target.parse token = .ok t :=
    fun _ ht => exists_left_of_forall₂ htargets ht
  -- stripping only takes characters away, and the text of a target only adds digits
  refine ⟨hhead_ne, hslash, fun c hc => ?_, ?_, fun t ht => ?_, fun t ht c hc => ?_⟩
  · rw [← hstrip] at hc
    exact plain first (List.mem_cons_self ..) c (Text.mem_of_mem_strip hc)
  · rintro rfl
    exact hne (List.forall₂_nil_right_iff.1 htargets)
  · obtain ⟨token, -, hp⟩ := token_of t ht
    exact Target.wellFormed_of_parse hp
  · obtain ⟨token, hm, hp⟩ := token_of t ht
    rcases Target.mem_text_of_parse hp hc with hc | hc
    · exact plain token (by simp [hm]) c hc
    · exact isPlain_of_isDigit hc

/-! ## The canonical line -/

theorem Meaning.text_toList (r : Meaning) :
    r.text.toList = ('/' :: r.head.toList) ++
      ((indicator r.truncate).toList :: r.targets.map fun t => t.text.toList).flatMap (' ' :: ·) := by
  simp [text, List.flatMap_map]

theorem indicator_plain (truncate : Bool) :
    indicator truncate ≠ "" ∧ ∀ c ∈ (indicator truncate).toList, IsPlain c := by
  cases truncate <;> simp [indicator, IsPlain] <;> decide

theorem isWord_of_plain {w : List Char} (hne : w ≠ []) (h : ∀ c ∈ w, IsPlain c) : Text.IsWord w :=
  ⟨hne, fun c hc => (h c hc).1⟩

theorem Meaning.Writable.words_text {r : Meaning} (h : r.Writable) :
    Text.words r.text.toList = ('/' :: r.head.toList) ::
      (indicator r.truncate).toList :: r.targets.map fun t => t.text.toList := by
  rw [r.text_toList]
  refine Text.words_spaced (isWord_of_plain (by simp) fun c hc => ?_) fun w hw => ?_
  · rcases List.mem_cons.1 hc with rfl | hc
    · exact ⟨by decide, by decide⟩
    · exact h.head_plain c hc
  · rcases List.mem_cons.1 hw with rfl | hw
    · obtain ⟨hne, hp⟩ := indicator_plain r.truncate
      exact isWord_of_plain (by simpa using hne) hp
    · obtain ⟨t, ht, rfl⟩ := List.mem_map.1 hw
      refine isWord_of_plain ?_ (h.targets_plain t ht)
      simp [Target.text_toList]

/-- Within a canonical line only spaces are blank, and none starts a comment. -/
theorem Meaning.Writable.mem_text {r : Meaning} (h : r.Writable) {c : Char}
    (hc : c ∈ r.text.toList) : c = ' ' ∨ IsPlain c := by
  rw [r.text_toList, List.mem_append, List.mem_cons, List.mem_flatMap] at hc
  rcases hc with (rfl | hc) | ⟨w, hw, hc⟩
  · exact .inr ⟨by decide, by decide⟩
  · exact .inr (h.head_plain c hc)
  · rcases List.mem_cons.1 hc with rfl | hc
    · exact .inl rfl
    · rcases List.mem_cons.1 hw with rfl | hw
      · exact .inr ((indicator_plain r.truncate).2 c hc)
      · obtain ⟨t, ht, rfl⟩ := List.mem_map.1 hw
        exact .inr (h.targets_plain t ht c hc)

theorem Meaning.Writable.newline_not_mem {r : Meaning} (h : r.Writable) : '\n' ∉ r.text.toList := by
  intro hc
  rcases h.mem_text hc with hc | hc
  · exact absurd hc (by decide)
  · exact absurd hc.1 (by decide)

/-- A canonical line is read back. -/
theorem Meaning.Writable.read_text {r : Meaning} (h : r.Writable) :
    read r.text.toList = .rule r.head r.truncate r.targets := by
  have hcontent : content r.text.toList = r.text.toList := by
    refine List.takeWhile_eq_self_iff.2 fun c hc => ?_
    rcases h.mem_text hc with rfl | hc
    · decide
    · simpa using hc.2
  refine readFields_eq_rule_iff.2 ⟨"/" ++ r.head, r.targets.map Target.text, ?_, ?_, ?_, ?_⟩
  · rw [fields, hcontent, h.words_text]
    simp
  · simpa using h.targets_ne
  · have hslash : ∀ d ∈ r.head.toList, (d == '/') = false := by
      intro d hd
      simpa using fun hs : d = '/' => h.head_slash (hs ▸ hd)
    refine head_eq_ok_iff.2 ⟨?_, h.head_ne, h.head_slash⟩
    simpa using Text.strip_cons (p := (· == '/')) (c := '/') rfl hslash
  · refine List.forall₂_map_left_iff.2 (List.forall₂_same.2 fun t ht => ?_)
    exact Target.parse_text (h.wellFormed t ht)

end Record

end Patchbay
