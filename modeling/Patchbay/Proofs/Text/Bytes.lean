/-
NUL in texts and zero bytes: the bytes of a text hold a zero exactly where the text holds a NUL, and
a text that is read from bytes is written as the same bytes.
-/
import Patchbay.Text.Utf8
import Mathlib

namespace Patchbay.Text.Utf8

theorem ofNat_eq_zero_iff {n : Nat} : UInt8.ofNat n = 0 ↔ n % 256 = 0 := by
  rw [← UInt8.toNat_inj, UInt8.toNat_ofNat']
  rfl

theorem zero_mem_utf8EncodeChar_iff {c : Char} : 0 ∈ String.utf8EncodeChar c ↔ c = '\x00' := by
  constructor
  · intro h
    have value : c.toNat = 0 := by
      simp only [String.utf8EncodeChar] at h
      split_ifs at h with h1 h2 h3
      all_goals
        simp only [List.mem_cons, List.not_mem_nil, or_false, @eq_comm _ (0 : UInt8),
          ofNat_eq_zero_iff] at h
        unfold Char.toNat
        omega
    exact Char.toNat_inj.1 value
  · rintro rfl
    decide

theorem zero_mem_encode_iff {s : String} : 0 ∈ encode s ↔ '\x00' ∈ s.toList := by
  simp [encode, List.mem_flatMap, zero_mem_utf8EncodeChar_iff]

theorem encode_of_decode {bytes : List UInt8} {s : String} (h : decode bytes = .ok s) :
    encode s = bytes := by
  have text : String.fromUTF8? bytes.toByteArray = some s := by
    unfold decode at h
    split at h
    · rename_i s' hs
      cases h
      exact hs
    · cases h
  unfold String.fromUTF8? at text
  split_ifs at text with valid
  cases text
  rw [← List.toByteArray_inj, toByteArray_encode]
  rfl

/-- A text that is read from bytes without a zero holds no NUL. -/
theorem nul_not_mem_of_decode {bytes : List UInt8} {s : String} (h : decode bytes = .ok s)
    (hz : 0 ∉ bytes) : '\x00' ∉ s.toList := by
  rw [← zero_mem_encode_iff, encode_of_decode h]
  exact hz

end Patchbay.Text.Utf8
