/-
Paths as lists of segments: the head of a path is its first segment behind the leading slash, and
dropping the head of an absolute path leaves a slash and the segments behind it.
-/
import Patchbay.Path
import Patchbay.Proofs.Text.Words

namespace Patchbay

namespace Text

theorem splitOn_of_cut? {c : Char} {cs a b : List Char} (h : cut? c cs = some (a, b)) :
    cs.splitOn c = a :: b.splitOn c := by
  obtain ⟨rfl, hc⟩ := cut?_eq_some_iff.1 h
  exact List.splitOn_append_cons_self_of_not_mem hc b

theorem splitOn_of_cut?_none {c : Char} {cs : List Char} (h : cut? c cs = none) :
    cs.splitOn c = [cs] :=
  List.splitOn_eq_singleton (cut?_eq_none_iff.1 h)

/-- The first piece of a cut is what stands before the first separator. -/
theorem splitOn_eq_takeWhile_cons (c : Char) (cs : List Char) :
    ∃ rest, cs.splitOn c = cs.takeWhile (· != c) :: rest := by
  cases h : cut? c cs with
  | none => exact ⟨[], by rw [splitOn_of_cut?_none h, takeWhile_of_cut?_none h]⟩
  | some p => exact ⟨p.2.splitOn c, by rw [splitOn_of_cut? h, takeWhile_of_cut? h]⟩

end Text

namespace Path

/-- What stands between the slashes of a path. An absolute path has an empty segment in front. -/
def segments (path : String) : List (List Char) := path.toList.splitOn '/'

/-- A slash and the segments behind the head, with slashes between them. -/
def behindHead (path : String) : String :=
  String.ofList ('/' :: ['/'].intercalate ((segments path).drop 2))

theorem segments_of_absolute {path : String} {rest : List Char} (h : path.toList = '/' :: rest) :
    segments path = [] :: rest.splitOn '/' := by
  rw [segments, h]
  exact List.splitOn_append_cons_self [] rest

/-- The first segment of a relative path is not empty, unless the whole path is. -/
theorem absolute_of_segments {path : String} {segment : List Char} {rest : List (List Char)}
    (h : segments path = [] :: segment :: rest) : ∃ tail, path.toList = '/' :: tail := by
  unfold segments at h
  cases hc : Text.cut? '/' path.toList with
  | none =>
    rw [Text.splitOn_of_cut?_none hc] at h
    simp at h
  | some p =>
    rw [Text.splitOn_of_cut? hc] at h
    obtain ⟨hfront, -⟩ := List.cons.inj h
    obtain ⟨hp, -⟩ := Text.cut?_eq_some_iff.1 hc
    exact ⟨p.2, by rw [hp, hfront, List.nil_append]⟩

theorem head?_eq_some_iff {path head : String} :
    head? path = some head ↔ head ≠ "" ∧ ∃ rest, segments path = [] :: head.toList :: rest := by
  constructor
  · intro h
    unfold head? at h
    split at h
    · rename_i tail hp
      obtain ⟨hempty, hhead⟩ := Option.ite_none_left_eq_some.1 h
      cases hhead
      obtain ⟨rest, hrest⟩ := Text.splitOn_eq_takeWhile_cons '/' tail
      refine ⟨by simpa using hempty, rest, ?_⟩
      rw [segments_of_absolute hp, hrest, String.toList_ofList]
    · cases h
  · rintro ⟨hne, rest, hs⟩
    obtain ⟨tail, hp⟩ := absolute_of_segments hs
    obtain ⟨others, hfirst⟩ := Text.splitOn_eq_takeWhile_cons '/' tail
    rw [segments_of_absolute hp, hfirst] at hs
    have hhead : tail.takeWhile (· != '/') = head.toList := (List.cons.inj (List.cons.inj hs).2).1
    simp [head?, hp, hhead, hne]

/-- Dropping the head removes one segment of an absolute path. -/
theorem dropHead_eq {path : String} {rest : List Char} (h : path.toList = '/' :: rest) :
    dropHead path = behindHead path := by
  simp only [dropHead, behindHead, segments_of_absolute h, h, List.drop_succ_cons]
  cases hc : Text.cut? '/' rest with
  | none => simp [Text.splitOn_of_cut?_none hc]
  | some p =>
    rw [Text.splitOn_of_cut? hc, List.drop_succ_cons, List.drop_zero, List.intercalate_splitOn]

end Path

end Patchbay
