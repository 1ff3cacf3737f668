/-
Numbers and padding on the wire: most significant byte first, everything padded to multiples of
four bytes.
-/
namespace Patchbay.Osc

/-- `n` in `count` bytes, the most significant first; higher bytes of `n` are lost. -/
def bigEndian : Nat → Nat → List UInt8
  | 0, _ => []
  | count + 1, n => bigEndian count (n / 256) ++ [UInt8.ofNat n]

/-- The number that `bytes` write, the most significant first. -/
def ofBigEndian (bytes : List UInt8) : Nat := bytes.foldl (fun n b => n * 256 + b.toNat) 0

/-- How many bytes bring `n` bytes to a multiple of four. -/
def padding (n : Nat) : Nat := (4 - n % 4) % 4

theorem four_dvd_add_padding (n : Nat) : 4 ∣ n + padding n := by unfold padding; omega

theorem length_bigEndian (count n : Nat) : (bigEndian count n).length = count := by
  induction count generalizing n with
  | zero => rfl
  | succ k ih => simp [bigEndian, ih]

theorem ofBigEndian_append_byte (bytes : List UInt8) (b : UInt8) :
    ofBigEndian (bytes ++ [b]) = ofBigEndian bytes * 256 + b.toNat := by
  simp [ofBigEndian]

/-- A number that fits reads back. -/
theorem ofBigEndian_bigEndian {count n : Nat} (h : n < Nat.pow 256 count) :
    ofBigEndian (bigEndian count n) = n := by
  induction count generalizing n with
  | zero => exact (Nat.lt_one_iff.1 h).symm
  | succ k ih =>
    have hk : n / 256 < Nat.pow 256 k := Nat.div_lt_of_lt_mul (Nat.mul_comm _ _ ▸ h)
    rw [bigEndian, ofBigEndian_append_byte, ih hk, UInt8.toNat_ofNat']
    exact Nat.div_add_mod' n 256

end Patchbay.Osc
