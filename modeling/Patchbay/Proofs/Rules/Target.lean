/-
Target tokens: `parse` accepts exactly the tokens that are a host without a colon, a colon, the
digits of a port, and an optional path from the first slash on; the text of a target that can be
written at all is read back as that target.
-/
import Patchbay.Target
import Patchbay.Proofs.Text.Number

namespace Patchbay

namespace Target

/-- A target that a token can stand for. -/
structure WellFormed (t : Target) : Prop where
  host_ne : t.host ≠ ""
  host_colon : ':' ∉ t.host.toList
  port_ne : t.port ≠ 0
  path_slash : ∀ path ∈ t.replacement, ∃ rest, path.toList = '/' :: rest

/-- The characters behind the port. -/
def pathText (replacement : Option String) : List Char := (replacement.getD "").toList

theorem text_toList (t : Target) :
    t.text.toList =
      t.host.toList ++ ':' :: ((toString t.port.toNat).toList ++ pathText t.replacement) := by
  simp [text, endpoint, Endpoint.text, pathText]

theorem splitPort_eq_iff {rest digits : List Char} {replacement : Option String} :
    splitPort rest = (digits, replacement) ↔
      rest = digits ++ pathText replacement ∧ '/' ∉ digits ∧
        ∀ path ∈ replacement, ∃ tail, path.toList = '/' :: tail := by
  constructor
  · intro h
    unfold splitPort at h
    split at h
    · rename_i front back hc
      cases h
      obtain ⟨hrest, hslash⟩ := Text.cut?_eq_some_iff.1 hc
      exact ⟨by simpa [pathText] using hrest, hslash, by simp⟩
    · rename_i hc
      cases h
      exact ⟨by simp [pathText], Text.cut?_eq_none_iff.1 hc, by simp⟩
  · rintro ⟨rfl, hslash, hpath⟩
    cases replacement with
    | none => simp [splitPort, pathText, Text.cut?_eq_none_iff.2 hslash]
    | some path =>
      obtain ⟨tail, ht⟩ := hpath path rfl
      have hc : Text.cut? '/' (digits ++ '/' :: tail) = some (digits, tail) :=
        Text.cut?_eq_some_iff.2 ⟨rfl, hslash⟩
      have hp : String.ofList ('/' :: tail) = path := by rw [← ht, String.ofList_toList]
      simp [splitPort, pathText, ht, hc, hp]

/-- The tokens that `parse` accepts, and the target that each stands for. -/
theorem parse_eq_ok_iff {token : String} {t : Target} :
    parse token = .ok t ↔
      ∃ digits, token.toList = t.host.toList ++ ':' :: (digits ++ pathText t.replacement) ∧
        '/' ∉ digits ∧ Text.portOf? digits = some t.port ∧ t.WellFormed := by
  constructor
  · intro h
    unfold parse at h
    split at h
    · cases h
    · rename_i host rest hc
      obtain ⟨htoken, hcolon⟩ := Text.cut?_eq_some_iff.1 hc
      split at h
      · cases h
      · rename_i hhost
        obtain ⟨hrest, hslash, hpath⟩ := splitPort_eq_iff.1 (Prod.eta (splitPort rest)).symm
        simp only at h
        split at h
        · rename_i port hport
          split at h
          · cases h
          · rename_i hzero
            cases h
            refine ⟨(splitPort rest).1, ?_, hslash, hport, ⟨?_, by simpa using hcolon, hzero, hpath⟩⟩
            · rw [htoken, ← hrest, String.toList_ofList]
            · simpa [← String.toList_inj] using hhost
        · cases h
  · rintro ⟨digits, htoken, hslash, hport, hw⟩
    -- the first colon ends the host, and the first slash behind it ends the digits
    have hc : Text.cut? ':' token.toList = some (t.host.toList, digits ++ pathText t.replacement) :=
      Text.cut?_eq_some_iff.2 ⟨htoken, hw.host_colon⟩
    have hs : splitPort (digits ++ pathText t.replacement) = (digits, t.replacement) :=
      splitPort_eq_iff.2 ⟨rfl, hslash, hw.path_slash⟩
    have hne : t.host.toList.isEmpty = false := by simpa using hw.host_ne
    simp [parse, hc, hs, hport, hne, hw.port_ne]

/-- The text of a well-formed target is a token for it. -/
theorem parse_text {t : Target} (h : t.WellFormed) : parse t.text = .ok t := by
  refine parse_eq_ok_iff.2 ⟨_, text_toList t, fun hs => ?_, Text.portOf?_toString t.port, h⟩
  exact absurd (Text.isDigit_of_mem_toString hs) (by decide)

theorem wellFormed_of_parse {token : String} {t : Target} (h : parse token = .ok t) :
    t.WellFormed := by
  obtain ⟨-, -, -, -, hw⟩ := parse_eq_ok_iff.1 h
  exact hw

/-- Apart from the digits of its port, a target's text holds only characters of its token. -/
theorem mem_text_of_parse {token : String} {t : Target} (h : parse token = .ok t) {c : Char}
    (hc : c ∈ t.text.toList) : c ∈ token.toList ∨ c.isDigit = true := by
  obtain ⟨digits, htoken, -⟩ := parse_eq_ok_iff.1 h
  rw [text_toList] at hc
  simp only [htoken, List.mem_append, List.mem_cons] at hc ⊢
  rcases hc with hc | hc | hc | hc
  · exact .inl (.inl hc)
  · exact .inl (.inr (.inl hc))
  · exact .inr (Text.isDigit_of_mem_toString hc)
  · exact .inl (.inr (.inr (.inr hc)))

end Target

end Patchbay
