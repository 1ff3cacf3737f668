/-
Whole numbers and their decimal digits: which texts stand for a count or a port, and that a port is
read back from the digits it is written in.
-/
import Patchbay.Text.Number
import Mathlib.Data.Nat.Digits.Defs

namespace Patchbay.Text

/-! ## Texts of numbers -/

/-- At most one plus sign, then decimal digits of the value `n`: at least one, and with any number
of zeros in front. -/
def Numeral (cs : List Char) (n : Nat) : Prop :=
  ∃ ds, (cs = ds ∨ cs = '+' :: ds) ∧ ds ≠ [] ∧ (∀ c ∈ ds, c.isDigit = true) ∧
    Nat.ofDigits 10 (ds.reverse.map fun c => c.toNat - '0'.toNat) = n

theorem ofDigitChars_eq_ofDigits (ds : List Char) :
    Nat.ofDigitChars 10 ds 0 = Nat.ofDigits 10 (ds.reverse.map fun c => c.toNat - '0'.toNat) := by
  rw [Nat.ofDigits_eq_foldr, List.foldr_map, List.foldr_reverse, Nat.ofDigitChars]
  congr 1
  funext n c
  exact Nat.add_comm _ _

theorem natOf?_eq_some_iff {ds : List Char} {n : Nat} :
    natOf? ds = some n ↔ ds ≠ [] ∧ (∀ c ∈ ds, c.isDigit = true) ∧
      Nat.ofDigits 10 (ds.reverse.map fun c => c.toNat - '0'.toNat) = n := by
  rw [← ofDigitChars_eq_ofDigits]
  simp [natOf?, and_assoc]

theorem countOf?_eq_some_iff {cs : List Char} {n : Nat} : countOf? cs = some n ↔ Numeral cs n := by
  unfold countOf?
  constructor
  · intro h
    split at h
    · rename_i ds
      exact ⟨ds, .inr rfl, natOf?_eq_some_iff.1 h⟩
    · exact ⟨cs, .inl rfl, natOf?_eq_some_iff.1 h⟩
  · rintro ⟨ds, rfl | rfl, number⟩
    · split
      · -- a plus sign is no digit
        obtain ⟨-, digits, -⟩ := number
        exact absurd (digits '+' List.mem_cons_self) (by decide)
      · exact natOf?_eq_some_iff.2 number
    · exact natOf?_eq_some_iff.2 number

theorem portOf?_eq_some_iff {cs : List Char} {p : UInt16} :
    portOf? cs = some p ↔ Numeral cs p.toNat := by
  rw [← countOf?_eq_some_iff]
  unfold portOf?
  constructor
  · intro h
    split at h
    · rename_i n hn
      split at h
      · rename_i small
        cases h
        rw [hn, UInt16.toNat_ofNat_of_lt' small]
      · cases h
    · cases h
  · intro h
    rw [h]
    simp only
    rw [if_pos p.toNat_lt, UInt16.ofNat_toNat]

/-! ## Digits of numbers -/

theorem isDigit_of_mem_toString {n : Nat} {c : Char} (h : c ∈ (toString n).toList) :
    c.isDigit = true := by
  rw [Nat.toString_eq_repr, Nat.toList_repr] at h
  exact Nat.isDigit_of_mem_toDigits (by decide) (by decide) h

theorem countOf?_of_isDigit {ds : List Char} (hne : ds ≠ []) (h : ∀ c ∈ ds, c.isDigit = true) :
    countOf? ds = some (Nat.ofDigitChars 10 ds 0) :=
  countOf?_eq_some_iff.2 ⟨ds, .inl rfl, hne, h, (ofDigitChars_eq_ofDigits ds).symm⟩

/-- A port is read back from its digits. -/
theorem portOf?_toString (p : UInt16) : portOf? (toString p.toNat).toList = some p := by
  have value : Nat.ofDigitChars 10 (toString p.toNat).toList 0 = p.toNat := by
    rw [Nat.toString_eq_repr, Nat.toList_repr, Nat.ofDigitChars_ten_toDigits]
  have hne : (toString p.toNat).toList ≠ [] := by simp
  simp only [portOf?, countOf?_of_isDigit hne fun _ => isDigit_of_mem_toString, value]
  rw [if_pos p.toNat_lt, UInt16.ofNat_toNat]

end Patchbay.Text
