/-
UTF-8: the bytes of a text, and reading bytes back. A reading that fails says how long the longest
valid beginning is and how many bytes the first bad sequence takes, or that the bytes end inside a
sequence.
-/
namespace Patchbay.Text.Utf8

/-- Where the bytes stop being a text. `badLength` is `none` when they end inside a sequence. -/
structure Fault where
  validUpTo : Nat
  badLength : Option Nat
  deriving DecidableEq, Repr

def encode (s : String) : List UInt8 := s.toList.flatMap String.utf8EncodeChar

/-- The second bytes that may follow `first` in a sequence of three or four bytes. -/
def secondRange (first : UInt8) : UInt8 × UInt8 :=
  if first = 0xE0 then (0xA0, 0xBF)
  else if first = 0xED then (0x80, 0x9F)
  else if first = 0xF0 then (0x90, 0xBF)
  else if first = 0xF4 then (0x80, 0x8F)
  else (0x80, 0xBF)

/-- How many bytes the sequence that `first` opens takes; zero if none starts so. -/
def width (first : UInt8) : Nat :=
  if first < 0x80 then 1
  else if first < 0xC2 then 0
  else if first < 0xE0 then 2
  else if first < 0xF0 then 3
  else if first < 0xF5 then 4
  else 0

/-- The length of the good beginning of a sequence: `.ok` of its width if it is whole, else how many
bytes of it are good and whether the bytes end there. -/
def sequence (first : UInt8) (rest : List UInt8) : Except (Option Nat) Nat :=
  match width first with
  | 0 => .error (some 1)
  | w + 1 => go 1 w (secondRange first) rest
where
  /-- `seen` bytes are good and `left` are due, the next one within `range`. -/
  go (seen : Nat) : Nat → UInt8 × UInt8 → List UInt8 → Except (Option Nat) Nat
    | 0, _, _ => .ok seen
    | _ + 1, _, [] => .error none
    | left + 1, range, b :: bs =>
      if range.1 ≤ b ∧ b ≤ range.2 then go (seen + 1) left (0x80, 0xBF) bs
      else .error (some seen)

/-- The first fault at or after `offset`, the number of bytes already found good. -/
def fault? (offset : Nat) : Nat → List UInt8 → Option Fault
  | 0, _ => none
  | _ + 1, [] => none
  | fuel + 1, b :: bs =>
    match sequence b bs with
    | .error n => some ⟨offset, n⟩
    | .ok w => fault? (offset + w) fuel (bs.drop (w - 1))

/-- The text of `bytes`, or where they stop being one. -/
def decode (bytes : List UInt8) : Except Fault String :=
  match String.fromUTF8? bytes.toByteArray with
  | some s => .ok s
  | none => .error ((fault? 0 bytes.length bytes).getD ⟨bytes.length, none⟩)

/-! ## Laws -/

theorem toByteArray_encode (s : String) : (encode s).toByteArray = s.toByteArray := by
  rw [← String.utf8Encode_toList]; rfl

/-- What is written reads back. -/
theorem decode_encode (s : String) : decode (encode s) = .ok s := by
  have h : s.toByteArray.IsValidUTF8 := s.isValidUTF8
  simp only [decode, toByteArray_encode, String.fromUTF8?, h, dite_true]
  rfl

end Patchbay.Text.Utf8
