/-
Words and lines: the words of a text hold no blank and nothing that the text does not hold, words
with single spaces between them are read back, and so are lines that each end in a line feed.
-/
import Patchbay.Text.Blank
import Mathlib.Data.List.TakeWhile

namespace Patchbay.Text

/-! ## Words -/

/-- A run of characters without a blank, as `words` cuts them. -/
structure IsWord (w : List Char) : Prop where
  ne_nil : w ≠ []
  visible : ∀ c ∈ w, isBlank c = false

/-- The pieces of a cut hold characters of the text, and none of those it was cut at. -/
theorem mem_of_mem_splitOnP {p : Char → Bool} {cs piece : List Char} (h : piece ∈ cs.splitOnP p) :
    ∀ c ∈ piece, c ∈ cs ∧ p c = false := by
  induction cs generalizing piece with
  | nil => simp_all
  | cons d ds ih =>
    have later {q : List Char} (hq : q ∈ ds.splitOnP p) : ∀ c ∈ q, c ∈ d :: ds ∧ p c = false := by
      intro c hc
      obtain ⟨hm, hp⟩ := ih hq c hc
      exact ⟨List.mem_cons_of_mem d hm, hp⟩
    rw [List.splitOnP_cons_eq_if_modifyHead] at h
    cases hd : p d with
    | true =>
      simp only [hd, if_true, List.mem_cons] at h
      rcases h with rfl | h
      · simp
      · exact later h
    | false =>
      -- the first piece of the rest grows by `d`, the others stay
      cases hs : ds.splitOnP p with
      | nil => exact absurd hs (List.splitOnP_ne_nil p ds)
      | cons first others =>
        simp only [hd, hs, Bool.false_eq_true, if_false, List.modifyHead_cons, List.mem_cons] at h
        rcases h with rfl | h
        · intro c hc
          rcases List.mem_cons.1 hc with rfl | hc
          · exact ⟨List.mem_cons_self .., hd⟩
          · exact later (by simp [hs]) c hc
        · exact later (by simp [hs, h])

theorem isWord_of_mem_words {cs w : List Char} (h : w ∈ words cs) : IsWord w := by
  simp only [words, List.mem_filter, Bool.not_eq_true', List.isEmpty_eq_false_iff] at h
  exact ⟨h.2, fun c hc => (mem_of_mem_splitOnP h.1 c hc).2⟩

theorem mem_of_mem_words {cs w : List Char} (h : w ∈ words cs) {c : Char} (hc : c ∈ w) : c ∈ cs :=
  (mem_of_mem_splitOnP (List.mem_filter.1 h).1 c hc).1

theorem IsWord.words_eq {w : List Char} (h : IsWord w) : words w = [w] := by
  simp [words, List.splitOnP_eq_singleton h.visible, h.ne_nil]

theorem IsWord.words_append {w : List Char} (h : IsWord w) {b : Char} (hb : isBlank b = true)
    (rest : List Char) : words (w ++ b :: rest) = w :: words rest := by
  simp [words, List.splitOnP_append_cons_of_forall_mem h.visible b hb, h.ne_nil]

/-- Words behind a first one, each after a space, are read back. -/
theorem words_spaced {w : List Char} {ws : List (List Char)} (hw : IsWord w)
    (hws : ∀ v ∈ ws, IsWord v) : words (w ++ ws.flatMap (' ' :: ·)) = w :: ws := by
  induction ws generalizing w with
  | nil => simpa using hw.words_eq
  | cons v vs ih =>
    rw [List.flatMap_cons, List.cons_append, hw.words_append (by decide),
      ih (hws v (List.mem_cons_self ..)) fun u hu => hws u (List.mem_cons_of_mem _ hu)]

/-! ## Lines -/

/-- Lines that each end in a line feed are read back, with an empty one behind the last. -/
theorem splitOn_lines {ls : List (List Char)} (h : ∀ l ∈ ls, '\n' ∉ l) :
    (ls.flatMap (· ++ ['\n'])).splitOn '\n' = ls ++ [[]] := by
  induction ls with
  | nil => rfl
  | cons l ls ih =>
    rw [List.flatMap_cons, List.append_assoc, List.singleton_append,
      List.splitOn_append_cons_self_of_not_mem (h l (List.mem_cons_self ..)),
      ih fun k hk => h k (List.mem_cons_of_mem _ hk), List.cons_append]

/-- Every separator makes one piece more. -/
theorem length_splitOn (c : Char) (cs : List Char) : (cs.splitOn c).length = cs.count c + 1 := by
  induction cs with
  | nil => rfl
  | cons d ds ih =>
    rw [List.splitOn_cons_eq_if_modifyHead, List.count_cons]
    by_cases separates : (d == c) = true
    · rw [if_pos separates, if_pos separates, List.length_cons, ih]
    · rw [if_neg separates, if_neg separates, List.length_modifyHead, ih]

/-! ## Cuts -/

/-- What stands before the first separator is the longest run without it. -/
theorem takeWhile_of_cut? {c : Char} {cs a b : List Char} (h : cut? c cs = some (a, b)) :
    cs.takeWhile (· != c) = a := by
  obtain ⟨rfl, hc⟩ := cut?_eq_some_iff.1 h
  have keep : ∀ d ∈ a, (d != c) = true := by
    intro d hd
    simpa using fun same : d = c => hc (same ▸ hd)
  rw [List.takeWhile_append_of_pos keep]
  simp

theorem takeWhile_of_cut?_none {c : Char} {cs : List Char} (h : cut? c cs = none) :
    cs.takeWhile (· != c) = cs := by
  rw [List.takeWhile_eq_self_iff]
  intro d hd
  simpa using fun same : d = c => cut?_eq_none_iff.1 h (same ▸ hd)

/-! ## Stripping -/

theorem mem_of_mem_strip {p : Char → Bool} {cs : List Char} {c : Char} (h : c ∈ strip p cs) :
    c ∈ cs := by
  unfold strip at h
  have h := (List.dropWhile_sublist p).subset (List.mem_reverse.1 h)
  exact (List.dropWhile_sublist p).subset (List.mem_reverse.1 h)

/-- Stripping takes characters of the class off both ends. -/
theorem exists_strip (p : Char → Bool) (cs : List Char) :
    ∃ front back, cs = front ++ strip p cs ++ back ∧ (∀ c ∈ front, p c = true) ∧
      ∀ c ∈ back, p c = true := by
  refine ⟨cs.takeWhile p, ((cs.dropWhile p).reverse.takeWhile p).reverse, ?_,
    fun c hc => List.mem_takeWhile_imp hc,
    fun c hc => List.mem_takeWhile_imp (List.mem_reverse.1 hc)⟩
  have inner : strip p cs ++ ((cs.dropWhile p).reverse.takeWhile p).reverse = cs.dropWhile p := by
    rw [strip, ← List.reverse_append, List.takeWhile_append_dropWhile, List.reverse_reverse]
  rw [List.append_assoc, inner, List.takeWhile_append_dropWhile]

theorem dropWhile_append_of_mem {p : Char → Bool} {front cs : List Char}
    (hf : ∀ c ∈ front, p c = true) (hc : ∀ c ∈ cs, p c = false) :
    (front ++ cs).dropWhile p = cs := by
  rw [List.dropWhile_append_of_pos hf]
  cases cs with
  | nil => rfl
  | cons c cs => rw [List.dropWhile_cons_of_neg (by simp [hc c (List.mem_cons_self ..)])]

/-- Characters of the class at both ends of a text without any are taken off. -/
theorem strip_append {p : Char → Bool} {front cs back : List Char}
    (hf : ∀ c ∈ front, p c = true) (hc : ∀ c ∈ cs, p c = false) (hb : ∀ c ∈ back, p c = true) :
    strip p (front ++ cs ++ back) = cs := by
  cases cs with
  | nil =>
    have all : (front ++ back).dropWhile p = [] :=
      List.dropWhile_eq_nil_iff.2 fun c hc => (List.mem_append.1 hc).elim (hf c) (hb c)
    simp [strip, all]
  | cons c cs =>
    have first : (front ++ (c :: cs) ++ back).dropWhile p = (c :: cs) ++ back := by
      rw [List.append_assoc, List.dropWhile_append_of_pos hf, List.cons_append,
        List.dropWhile_cons_of_neg (by simp [hc c (List.mem_cons_self ..)])]
    rw [strip, first, List.reverse_append,
      dropWhile_append_of_mem (fun d hd => hb d (List.mem_reverse.1 hd))
        (fun d hd => hc d (List.mem_reverse.1 hd)), List.reverse_reverse]

/-- One character of the class in front of a text without any is taken off. -/
theorem strip_cons {p : Char → Bool} {c : Char} (hc : p c = true) {cs : List Char}
    (h : ∀ d ∈ cs, p d = false) : strip p (c :: cs) = cs := by
  have front : ∀ d ∈ [c], p d = true := by simpa using hc
  simpa using strip_append front h (List.forall_mem_nil _)

theorem strip_eq_nil_iff {p : Char → Bool} {cs : List Char} :
    strip p cs = [] ↔ ∀ c ∈ cs, p c = true := by
  constructor
  · intro h
    obtain ⟨front, back, hcs, hf, hb⟩ := exists_strip p cs
    rw [h, List.append_nil] at hcs
    intro c hc
    rw [hcs] at hc
    exact (List.mem_append.1 hc).elim (hf c) (hb c)
  · intro h
    simpa using strip_append h (List.forall_mem_nil _) (List.forall_mem_nil _)

end Patchbay.Text
