/-
Reading back what was written. Every value takes a multiple of four bytes, so a value that starts at
a multiple of four ends at one, and the padding that the reader counts from the start of the datagram
is the padding that was written. Values of which the writer loses something are those that are not
portable: a text with a NUL, and a blob whose length does not fit into four bytes.
-/
import Patchbay.Osc.Decode
import Patchbay.Proofs.Text.Bytes

namespace Patchbay.Osc

/-! ## Portable arguments -/

mutual

/-- `P` holds of every argument that is no array, at every depth. -/
def Argument.Leaves (P : Argument → Prop) : Argument → Prop
  | .array items => LeavesOf P items
  | a => P a

def LeavesOf (P : Argument → Prop) : List Argument → Prop
  | [] => True
  | a :: rest => a.Leaves P ∧ LeavesOf P rest

end

/-- A text without a NUL, and any other argument. -/
def Argument.NulFree : Argument → Prop
  | .string s => '\x00' ∉ s.toList
  | _ => True

/-- A blob whose length can be written, and any other argument. -/
def Argument.Fits : Argument → Prop
  | .blob bytes => bytes.length < 2 ^ 32
  | _ => True

def Argument.Portable (a : Argument) : Prop := a.NulFree ∧ a.Fits

/-! ## Reading at multiples of four -/

/-- Wherever `bytes` stand at a multiple of four, `read` takes just them and gives `a`. -/
structure ReadsBack {α : Type} (read : Cursor → Except DecodeError (α × Cursor))
    (bytes : List UInt8) (a : α) : Prop where
  aligned : 4 ∣ bytes.length
  read_eq : ∀ (offset : Nat) (rest : List UInt8), 4 ∣ offset →
    read ⟨offset, bytes ++ rest⟩ = .ok (a, ⟨offset + bytes.length, rest⟩)

theorem take_append (offset : Nat) (bytes rest : List UInt8) :
    Cursor.take ⟨offset, bytes ++ rest⟩ bytes.length =
      .ok (bytes, ⟨offset + bytes.length, rest⟩) := by
  simp [Cursor.take]

theorem padding_add {offset : Nat} (h : 4 ∣ offset) (n : Nat) : padding (offset + n) = padding n := by
  unfold padding
  omega

theorem align_append (offset : Nat) {bytes : List UInt8} (rest : List UInt8)
    (h : bytes.length = padding offset) :
    Cursor.align ⟨offset, bytes ++ rest⟩ = .ok ⟨offset + bytes.length, rest⟩ := by
  rw [Cursor.align, ← h, take_append]
  rfl

theorem readsBack_number {count n : Nat} (aligned : 4 ∣ count) (h : n < Nat.pow 256 count) :
    ReadsBack (·.number count) (bigEndian count n) n where
  aligned := by rwa [length_bigEndian]
  read_eq offset rest _ := by
    have taken := take_append offset (bigEndian count n) rest
    rw [length_bigEndian] at taken ⊢
    simp only [Cursor.number, taken, bind, Except.bind, ofBigEndian_bigEndian h]
    rfl

theorem length_terminated (bytes : List UInt8) : 4 ∣ (terminated bytes).length := by
  have whole := four_dvd_add_padding (bytes.length + 1)
  simpa [terminated, Nat.add_assoc, Nat.add_comm] using whole

theorem takeWhile_append_zero {bytes : List UInt8} (h : 0 ∉ bytes) (rest : List UInt8) :
    (bytes ++ 0 :: rest).takeWhile (· != 0) = bytes := by
  have nonzero : ∀ b ∈ bytes, (b != 0) = true := by
    intro b hb
    simpa using fun hz : b = 0 => h (hz ▸ hb)
  rw [List.takeWhile_append_of_pos nonzero]
  simp

/-- A string ends at the first zero byte, and the padding follows. -/
theorem string_append_zero {bytes : List UInt8} (h : 0 ∉ bytes) (offset : Nat) (rest : List UInt8) :
    Cursor.string ⟨offset, bytes ++ 0 :: rest⟩ = (do
      let c ← Cursor.align ⟨offset + (bytes.length + 1), rest⟩
      match Text.Utf8.decode bytes with
      | .ok s => return (s, c)
      | .error fault => .error (.notText bytes fault)) := by
  have taken : Cursor.take ⟨offset, bytes ++ 0 :: rest⟩ (bytes.length + 1) =
      .ok (bytes ++ [0], ⟨offset + (bytes.length + 1), rest⟩) := by
    have front := take_append offset (bytes ++ [0]) rest
    rwa [List.append_assoc, List.singleton_append, List.length_append, List.length_singleton] at front
  have longer : bytes.length ≠ (bytes ++ 0 :: rest).length := by
    simp
  unfold Cursor.string
  rw [takeWhile_append_zero h, if_neg longer, taken]
  rfl

theorem readsBack_string {s : String} (h : '\x00' ∉ s.toList) :
    ReadsBack Cursor.string (stringBytes s) s where
  aligned := length_terminated _
  read_eq offset rest aligned := by
    let bytes := Text.Utf8.encode s
    let zeros : List UInt8 := List.replicate (padding (bytes.length + 1)) 0
    have no_zero : 0 ∉ bytes := fun hz => h (Text.Utf8.zero_mem_encode_iff.1 hz)
    have split : stringBytes s ++ rest = bytes ++ 0 :: (zeros ++ rest) := by
      simp [stringBytes, terminated, bytes, zeros]
    have length : (stringBytes s).length = bytes.length + 1 + zeros.length := by
      simp [stringBytes, terminated, bytes, zeros]
      omega
    -- the writer pads by the length of the string, the reader by its place in the datagram
    have padded : zeros.length = padding (offset + (bytes.length + 1)) := by
      rw [padding_add aligned]
      simp [zeros]
    simp only [split, string_append_zero no_zero, align_append _ rest padded, length, bytes,
      Text.Utf8.decode_encode, Nat.add_assoc]
    rfl

theorem readsBack_blob {bytes : List UInt8} (h : bytes.length < 2 ^ 32) :
    ReadsBack Cursor.blob (blobBytes bytes) bytes where
  aligned := by
    have whole := four_dvd_add_padding bytes.length
    simp [blobBytes, length_bigEndian]
    omega
  read_eq offset rest aligned := by
    let zeros : List UInt8 := List.replicate (padding bytes.length) 0
    have split : blobBytes bytes ++ rest = bigEndian 4 bytes.length ++ (bytes ++ (zeros ++ rest)) := by
      simp [blobBytes, zeros]
    have length : (blobBytes bytes).length = 4 + bytes.length + zeros.length := by
      simp [blobBytes, zeros, length_bigEndian]
      omega
    have number : ReadsBack (·.number 4) (bigEndian 4 bytes.length) bytes.length :=
      readsBack_number (by decide) h
    have size := number.read_eq offset (bytes ++ (zeros ++ rest)) aligned
    have padded : zeros.length = padding (offset + (4 + bytes.length)) := by
      rw [← Nat.add_assoc, padding_add (by omega)]
      simp [zeros]
    rw [length_bigEndian] at size
    simp only [Cursor.blob, split, size, take_append, align_append _ rest padded, length, bind,
      Except.bind, Nat.add_assoc]
    rfl

/-! ## Arguments -/

theorem ReadsBack.map {α β : Type} {read : Cursor → Except DecodeError (α × Cursor)}
    {bytes : List UInt8} {a : α} (h : ReadsBack read bytes a) (f : α → β) {b : β} (hb : f a = b) :
    ReadsBack (fun c => do let (a, c) ← read c; return (f a, c)) bytes b where
  aligned := h.aligned
  read_eq offset rest aligned := by
    simp only [h.read_eq offset rest aligned, bind, Except.bind, hb]
    rfl

theorem readsBack_empty {α : Type} (a : α) : ReadsBack (fun c => .ok (a, c)) [] a where
  aligned := Nat.dvd_zero 4
  read_eq _ _ _ := rfl

theorem readsBack_four {α : Type} (f : UInt8 → UInt8 → UInt8 → UInt8 → α) (x y z w : UInt8) :
    ReadsBack (fun c => do
      match ← c.take 4 with
      | ([x, y, z, w], c) => return (f x y z w, c)
      | _ => .error .truncated) [x, y, z, w] (f x y z w) where
  aligned := Nat.dvd_refl 4
  read_eq offset rest _ := by
    have taken := take_append offset [x, y, z, w] rest
    simp only [List.length_cons, List.length_nil, Nat.reduceAdd] at taken ⊢
    simp only [taken, bind, Except.bind]
    rfl

theorem readsBack_uint32 (v : UInt32) : ReadsBack (·.number 4) (bigEndian 4 v.toNat) v.toNat :=
  readsBack_number (by decide) v.toNat_lt

theorem readsBack_uint64 (v : UInt64) : ReadsBack (·.number 8) (bigEndian 8 v.toNat) v.toNat :=
  readsBack_number (by decide) v.toNat_lt

theorem readsBack_char (c : Char) :
    ReadsBack (·.argument 'c') (bigEndian 4 c.toNat) (.char c) where
  aligned := by
    simp [length_bigEndian]
  read_eq offset rest aligned := by
    have number : Cursor.number ⟨offset, bigEndian 4 c.toNat ++ rest⟩ 4 = _ :=
      (readsBack_uint32 c.val).read_eq offset rest aligned
    have valid : c.toNat.isValidChar := c.valid
    have same : Char.ofNatAux c.toNat valid = c := Char.ext rfl
    simp only [Cursor.argument, number, bind, Except.bind]
    refine (dif_pos valid).trans ?_
    change Except.ok (Argument.char (Char.ofNatAux c.toNat valid), _) = _
    rw [same]
    rfl

theorem readsBack_time (seconds fractional : UInt32) :
    ReadsBack (·.argument 't') (Argument.time seconds fractional).data (.time seconds fractional) where
  aligned := by
    simp [Argument.data, length_bigEndian]
  read_eq offset rest aligned := by
    have first := (readsBack_uint32 seconds).read_eq offset
      (bigEndian 4 fractional.toNat ++ rest) aligned
    have second := (readsBack_uint32 fractional).read_eq (offset + 4) rest (by omega)
    simp only [length_bigEndian] at first second
    simp only [Cursor.argument, Argument.data, List.append_assoc, first, second, bind, Except.bind,
      List.length_append, length_bigEndian, UInt32.ofNat_toNat]
    rfl

/-- An argument that is no array has one tag, and its data are read back under that tag. -/
theorem Argument.readsBack {a : Argument} (h : a.Portable) (leaf : ∀ items, a ≠ .array items) :
    ∃ tag, a.tags = [tag] ∧ tag ≠ '[' ∧ tag ≠ ']' ∧ ReadsBack (·.argument tag) a.data a := by
  obtain ⟨nul_free, fits⟩ := h
  cases a with
  | int v =>
    refine ⟨'i', rfl, by decide, by decide, ?_⟩
    exact (readsBack_uint32 _).map (fun n => Argument.int (UInt32.ofNat n).toInt32) (by simp)
  | long v =>
    refine ⟨'h', rfl, by decide, by decide, ?_⟩
    exact (readsBack_uint64 _).map (fun n => Argument.long (UInt64.ofNat n).toInt64) (by simp)
  | float bits =>
    refine ⟨'f', rfl, by decide, by decide, ?_⟩
    exact (readsBack_uint32 bits).map (fun n => Argument.float (UInt32.ofNat n)) (by simp)
  | double bits =>
    refine ⟨'d', rfl, by decide, by decide, ?_⟩
    exact (readsBack_uint64 bits).map (fun n => Argument.double (UInt64.ofNat n)) (by simp)
  | string s =>
    refine ⟨'s', rfl, by decide, by decide, ?_⟩
    exact (readsBack_string nul_free).map Argument.string rfl
  | char c => exact ⟨'c', rfl, by decide, by decide, readsBack_char c⟩
  | blob bytes =>
    refine ⟨'b', rfl, by decide, by decide, ?_⟩
    exact (readsBack_blob fits).map Argument.blob rfl
  | time seconds fractional =>
    exact ⟨'t', rfl, by decide, by decide, readsBack_time seconds fractional⟩
  | midi port status data1 data2 =>
    exact ⟨'m', rfl, by decide, by decide, readsBack_four Argument.midi port status data1 data2⟩
  | color red green blue alpha =>
    exact ⟨'r', rfl, by decide, by decide, readsBack_four Argument.color red green blue alpha⟩
  | bool v =>
    cases v with
    | true => exact ⟨'T', rfl, by decide, by decide, readsBack_empty _⟩
    | false => exact ⟨'F', rfl, by decide, by decide, readsBack_empty _⟩
  | nil => exact ⟨'N', rfl, by decide, by decide, readsBack_empty _⟩
  | infinitum => exact ⟨'I', rfl, by decide, by decide, readsBack_empty _⟩
  | array items => exact absurd rfl (leaf items)

/-! ## Lists of arguments -/

/-- Wherever `bytes` stand at a multiple of four, `tags` read just them, and `as` are what they add
to the innermost open array. -/
structure ReadsAs (tags : List Char) (bytes : List UInt8) (as : List Argument) : Prop where
  aligned : 4 ∣ bytes.length
  arguments_eq : ∀ (outer : List (List Argument)) (items : List Argument) (offset : Nat)
    (rest : List UInt8) (more : List Char), 4 ∣ offset →
    Cursor.arguments outer items ⟨offset, bytes ++ rest⟩ (tags ++ more) =
      Cursor.arguments outer (items ++ as) ⟨offset + bytes.length, rest⟩ more

theorem ReadsAs.nil : ReadsAs [] [] [] where
  aligned := Nat.dvd_zero 4
  arguments_eq _ _ _ _ _ _ := by simp

theorem ReadsAs.append {tags tags' : List Char} {bytes bytes' : List UInt8} {as as' : List Argument}
    (h : ReadsAs tags bytes as) (h' : ReadsAs tags' bytes' as') :
    ReadsAs (tags ++ tags') (bytes ++ bytes') (as ++ as') where
  aligned := by
    rw [List.length_append]
    exact Nat.dvd_add h.aligned h'.aligned
  arguments_eq outer items offset rest more aligned := by
    simp only [List.append_assoc, List.length_append]
    rw [h.arguments_eq _ _ _ _ _ aligned,
      h'.arguments_eq _ _ _ _ _ (Nat.dvd_add aligned h.aligned), List.append_assoc, Nat.add_assoc]

theorem ReadsAs.array {tags : List Char} {bytes : List UInt8} {items : List Argument}
    (h : ReadsAs tags bytes items) : ReadsAs ('[' :: tags ++ [']']) bytes [.array items] where
  aligned := h.aligned
  arguments_eq outer enclosing offset rest more aligned := by
    -- the opening bracket sets `enclosing` aside, and the closing one takes it back
    have inside := h.arguments_eq (enclosing :: outer) [] offset rest (']' :: more) aligned
    simpa [Cursor.arguments] using inside

theorem ReadsBack.readsAs {tag : Char} {bytes : List UInt8} {a : Argument}
    (h : ReadsBack (·.argument tag) bytes a) (opening : tag ≠ '[') (closing : tag ≠ ']') :
    ReadsAs [tag] bytes [a] where
  aligned := h.aligned
  arguments_eq outer items offset rest more aligned := by
    have read := h.read_eq offset rest aligned
    simp [Cursor.arguments, read, bind, Except.bind]

theorem Argument.Portable.readsAs {a : Argument} (h : a.Portable)
    (leaf : ∀ items, a ≠ .array items) : ReadsAs a.tags a.data [a] := by
  obtain ⟨tag, tags, opening, closing, read⟩ := a.readsBack h leaf
  rw [tags]
  exact read.readsAs opening closing

mutual

theorem Argument.readsAs (a : Argument) (h : a.Leaves Argument.Portable) :
    ReadsAs a.tags a.data [a] := by
  cases a with
  | array items => exact (readsAs_of items h).array
  | _ => exact Argument.Portable.readsAs h nofun

theorem readsAs_of (as : List Argument) (h : LeavesOf Argument.Portable as) :
    ReadsAs (tagsOf as) (dataOf as) as := by
  cases as with
  | nil => exact .nil
  | cons a rest => exact (a.readsAs h.1).append (readsAs_of rest h.2)

end

mutual

theorem Argument.nul_not_mem_tags (a : Argument) : '\x00' ∉ a.tags := by
  cases a with
  | array items => simp [Argument.tags, nul_not_mem_tagsOf items]
  | bool v => cases v <;> decide
  | _ => simp [Argument.tags]

theorem nul_not_mem_tagsOf (as : List Argument) : '\x00' ∉ tagsOf as := by
  cases as with
  | nil => simp [tagsOf]
  | cons a rest => simp [tagsOf, a.nul_not_mem_tags, nul_not_mem_tagsOf rest]

end

/-! ## Datagrams -/

/-- A path that a message can be sent to. -/
structure IsAddress (path : String) : Prop where
  slash : ∃ rest, path.toList = '/' :: rest
  nul_free : '\x00' ∉ path.toList

/-- What is written for an address and portable arguments is read back as it was. -/
theorem decode_encode {path : String} {arguments : List Argument} (legal : IsAddress path)
    (portable : LeavesOf Argument.Portable arguments) :
    decode (encode path arguments) = .ok (.message ⟨path, arguments⟩) := by
  let tags := String.ofList (',' :: tagsOf arguments)
  have tags_nul : '\x00' ∉ tags.toList := by
    simp [tags, nul_not_mem_tagsOf]
  have tail : tags.toList.drop 1 = tagsOf arguments := by
    simp [tags]
  have slash : path.toList.head? = some '/' := List.head?_eq_some_iff.2 legal.slash
  -- the address, the tags and the data are read one after another, each where the last one ended
  have address := readsBack_string legal.nul_free
  have kinds := readsBack_string tags_nul
  have values := readsAs_of arguments portable
  have first := address.read_eq 0 (stringBytes tags ++ dataOf arguments) (Nat.dvd_zero 4)
  have second := kinds.read_eq _ (dataOf arguments) (Nat.dvd_add (Nat.dvd_zero 4) address.aligned)
  have third := values.arguments_eq [] [] _ [] []
    (Nat.dvd_add (Nat.dvd_add (Nat.dvd_zero 4) address.aligned) kinds.aligned)
  have some_bytes : (stringBytes path ++ (stringBytes tags ++ dataOf arguments)).isEmpty = false := by
    simp [stringBytes, terminated]
  simp only [List.append_nil, List.nil_append] at third
  simp only [decode, encode, Cursor.packet, List.append_assoc, some_bytes, first, slash, second, tail,
    third, bind, Except.bind, tags]
  rfl

end Patchbay.Osc
