/-
Paths hop by hop. A forward that drops the head loses one segment of its path, so a path that goes
through several forwarders is worn down from the front until only the root is left. The head and
what is dropped are cut at the same slash, and empty segments count like any others.
-/
import Patchbay.Proofs.Dispatch.Path
import Mathlib.Logic.Function.Iterate

namespace Patchbay.Path

/-- The absolute path with the given segments; that of no segments is the root. -/
def ofSegments (segments : List String) : String := "/" ++ String.intercalate "/" segments

theorem toList_ofSegments (ss : List String) :
    (ofSegments ss).toList = '/' :: ['/'].intercalate (ss.map String.toList) := by
  simp [ofSegments]

theorem ofSegments_nil : ofSegments [] = "/" := by
  simp [ofSegments]

/-- Segments without a slash can be told from their path. -/
theorem segments_ofSegments {ss : List String} (some_segment : ss ≠ [])
    (slash_free : ∀ s ∈ ss, '/' ∉ s.toList) :
    segments (ofSegments ss) = [] :: ss.map String.toList := by
  rw [segments_of_absolute (toList_ofSegments ss), List.splitOn_intercalate]
  · simpa using slash_free
  · simpa using some_segment

/-! ## The head -/

/-- The head is the first segment, unless that is empty. -/
theorem head?_ofSegments {first : String} {rest : List String}
    (slash_free : ∀ s ∈ first :: rest, '/' ∉ s.toList) :
    head? (ofSegments (first :: rest)) = if first = "" then none else some first := by
  have cut := segments_ofSegments (List.cons_ne_nil first rest) slash_free
  split
  · rename_i empty
    rw [Option.eq_none_iff_forall_ne_some]
    intro head h
    obtain ⟨some_head, others, hs⟩ := head?_eq_some_iff.1 h
    rw [cut, empty] at hs
    have same : "".toList = head.toList := (List.cons.inj (List.cons.inj hs).2).1
    exact some_head (String.toList_inj.1 same).symm
  · rename_i some_head
    exact head?_eq_some_iff.2 ⟨some_head, rest.map String.toList, cut⟩

/-! ## One hop -/

/-- A hop removes the first segment; the root stays as it is. -/
theorem dropHead_ofSegments {ss : List String} (slash_free : ∀ s ∈ ss, '/' ∉ s.toList) :
    dropHead (ofSegments ss) = ofSegments (ss.drop 1) := by
  cases ss with
  | nil =>
    rw [List.drop_nil, ofSegments_nil]
    decide
  | cons first rest =>
    have cut := segments_ofSegments (List.cons_ne_nil first rest) slash_free
    rw [dropHead_eq (toList_ofSegments _), behindHead, cut]
    apply String.toList_inj.1
    rw [toList_ofSegments, String.toList_ofList]
    rfl

/-- Whatever the path was, a slash is in front of what a hop leaves. -/
theorem dropHead_absolute (path : String) : ∃ tail, (dropHead path).toList = '/' :: tail := by
  unfold dropHead
  dsimp only
  split
  · exact ⟨_, String.toList_ofList⟩
  · exact ⟨[], rfl⟩

/-- Only the root survives a hop. -/
theorem dropHead_eq_self_iff {path : String} : dropHead path = path ↔ path = "/" := by
  constructor
  · intro fixed
    obtain ⟨tail, habs⟩ := dropHead_absolute path
    rw [fixed] at habs
    have dropped := fixed
    simp only [dropHead, habs] at dropped
    cases hc : Text.cut? '/' tail with
    | none =>
      rw [hc] at dropped
      exact dropped.symm
    | some p =>
      -- the part behind a second slash would be as long as the part that holds it
      rw [hc] at dropped
      have same : '/' :: p.2 = '/' :: tail := by
        rw [← habs, ← dropped, String.toList_ofList]
      obtain ⟨hcut, -⟩ := Text.cut?_eq_some_iff.1 hc
      have shorter := congrArg List.length hcut
      rw [← (List.cons.inj same).2] at shorter
      simp at shorter
      omega
  · rintro rfl
    decide

/-- The head and what a hop leaves make up the path, unless the head is all of it. -/
theorem head?_append_dropHead {path head : String} (h : head? path = some head) :
    (path = "/" ++ head ∧ dropHead path = "/") ∨ path = "/" ++ head ++ dropHead path := by
  unfold head? at h
  split at h
  · rename_i rest hpath
    obtain ⟨-, hhead⟩ := Option.ite_none_left_eq_some.1 h
    cases hhead
    cases hc : Text.cut? '/' rest with
    | none =>
      refine .inl ⟨?_, by simp only [dropHead, hpath, hc]⟩
      apply String.toList_inj.1
      rw [Text.takeWhile_of_cut?_none hc, hpath]
      simp
    | some p =>
      refine .inr (String.toList_inj.1 ?_)
      obtain ⟨hrest, -⟩ := Text.cut?_eq_some_iff.1 hc
      simp only [dropHead, hpath, hc, Text.takeWhile_of_cut? hc]
      simpa using hrest
  · cases h

/-! ## Several hops -/

/-- Each of several hops removes one segment. -/
theorem iterate_dropHead {ss : List String} (slash_free : ∀ s ∈ ss, '/' ∉ s.toList) (k : Nat) :
    dropHead^[k] (ofSegments ss) = ofSegments (ss.drop k) := by
  induction k with
  | zero => rfl
  | succ k ih =>
    have left : ∀ s ∈ ss.drop k, '/' ∉ s.toList := fun s hs => slash_free s (List.mem_of_mem_drop hs)
    rw [Function.iterate_succ_apply', ih, dropHead_ofSegments left, List.drop_drop]

/-- The head of a path of segments is the first of them, if that is not empty, and `k` hops leave the
path of the segments behind the first `k`. When none is left this is the root, the one path that a
hop does not change. A hop never leaves a relative path, and what it takes off a path that has a head
is that head with the slash in front of it. -/
theorem hop_by_hop {first : String} {rest : List String}
    (slash_free : ∀ s ∈ first :: rest, '/' ∉ s.toList) :
    head? (ofSegments (first :: rest)) = (if first = "" then none else some first) ∧
      (∀ k, dropHead^[k] (ofSegments (first :: rest)) = ofSegments ((first :: rest).drop k)) ∧
      (∀ k, (first :: rest).length ≤ k → dropHead^[k] (ofSegments (first :: rest)) = "/") ∧
      (∀ other, dropHead other = other ↔ other = "/") ∧
      (∀ other, ∃ tail, dropHead other = "/" ++ tail) ∧
      ∀ other head, head? other = some head →
        (other = "/" ++ head ∧ dropHead other = "/") ∨ other = "/" ++ head ++ dropHead other := by
  have hops := iterate_dropHead slash_free
  refine ⟨head?_ofSegments slash_free, hops, fun k hk => ?_, fun _ => dropHead_eq_self_iff,
    fun other => ?_, fun _ _ => head?_append_dropHead⟩
  · rw [hops k, List.drop_eq_nil_of_le hk, ofSegments_nil]
  · obtain ⟨tail, htail⟩ := dropHead_absolute other
    refine ⟨String.ofList tail, String.toList_inj.1 ?_⟩
    rw [htail]
    simp

/-- An empty segment in the middle and one at the end. -/
theorem hop_by_hop_slashes :
    let segments := ["a", "", "b", ""]
    let path := "/a//b/"
    (∀ s ∈ segments, '/' ∉ s.toList) ∧ ofSegments segments = path ∧ head? path = some "a" ∧
      dropHead path = "//b/" ∧ head? "//b/" = none ∧ (∀ k, 4 ≤ k → dropHead^[k] path = "/") := by
  intro segments path
  have slash_free : ∀ s ∈ segments, '/' ∉ s.toList := by decide
  have spelled : ofSegments segments = path := by decide
  obtain ⟨head, hops, root, -⟩ := hop_by_hop slash_free
  rw [show ofSegments ["a", "", "b", ""] = path from spelled] at head hops root
  exact ⟨slash_free, spelled, by simpa using head, (hops 1).trans (by decide), by decide, root⟩

end Patchbay.Path
