/-
What decoding can give. A datagram may be irregular in many ways, with any bytes for its padding,
bytes left over or brackets that are never closed; but a text ends before its first zero byte, and
the length of a blob was read from four bytes. So every decoded argument is one that is written
without loss, and the messages that come back from their own datagrams are known.
-/
import Mathlib.Data.List.Induction
import Mathlib.Data.List.TakeWhile
import Patchbay.Proofs.Osc.RoundTrip

namespace Patchbay.Osc

theorem bind_eq_ok {ε α β : Type} {x : Except ε α} {f : α → Except ε β} {b : β} :
    x >>= f = .ok b ↔ ∃ a, x = .ok a ∧ f a = .ok b := by
  cases x <;> simp [bind, Except.bind]

/-! ## Parts of a datagram -/

theorem length_of_take {c c' : Cursor} {n : Nat} {bytes : List UInt8}
    (h : c.take n = .ok (bytes, c')) : bytes.length = n := by
  unfold Cursor.take at h
  split at h
  · cases h
    simp [*]
  · cases h

theorem ofBigEndian_lt (bytes : List UInt8) : ofBigEndian bytes < Nat.pow 256 bytes.length := by
  induction bytes using List.reverseRecOn with
  | nil => decide
  | append_singleton bytes b ih =>
    have byte := b.toNat_lt
    have more : Nat.pow 256 (bytes.length + 1) = Nat.pow 256 bytes.length * 256 := rfl
    rw [ofBigEndian_append_byte, List.length_append, List.length_singleton, more]
    omega

theorem number_lt {c c' : Cursor} {count n : Nat} (h : c.number count = .ok (n, c')) :
    n < Nat.pow 256 count := by
  obtain ⟨⟨bytes, c''⟩, taken, result⟩ := bind_eq_ok.1 h
  cases result
  rw [← length_of_take taken]
  exact ofBigEndian_lt bytes

theorem nul_not_mem_of_string {c c' : Cursor} {s : String} (h : c.string = .ok (s, c')) :
    '\x00' ∉ s.toList := by
  have stops : 0 ∉ c.rest.takeWhile (· != 0) := by
    intro zero
    simpa using List.mem_takeWhile_imp zero
  simp only [Cursor.string] at h
  split at h
  · cases h
  obtain ⟨⟨_, c₁⟩, -, h⟩ := bind_eq_ok.1 h
  obtain ⟨c₂, -, h⟩ := bind_eq_ok.1 h
  split at h
  · rename_i text
    cases h
    exact Text.Utf8.nul_not_mem_of_decode text stops
  · cases h

theorem length_of_blob {c c' : Cursor} {bytes : List UInt8} (h : c.blob = .ok (bytes, c')) :
    bytes.length < 2 ^ 32 := by
  obtain ⟨⟨size, c₁⟩, sized, h⟩ := bind_eq_ok.1 h
  obtain ⟨⟨bytes', c₂⟩, taken, h⟩ := bind_eq_ok.1 h
  obtain ⟨c₃, -, result⟩ := bind_eq_ok.1 h
  cases result
  rw [length_of_take taken]
  exact number_lt sized

/-! ## Arguments -/

theorem leaves_of_argument {c c' : Cursor} {tag : Char} {a : Argument}
    (h : c.argument tag = .ok (a, c')) : a.Leaves Argument.Portable := by
  unfold Cursor.argument at h
  split at h
  case h_1 | h_2 | h_3 | h_4 =>
    obtain ⟨⟨n, c₁⟩, -, result⟩ := bind_eq_ok.1 h
    cases result
    exact ⟨trivial, trivial⟩
  -- of the tags only `s` and `b` announce something that could be lost
  case h_5 =>
    obtain ⟨⟨s, c₁⟩, text, result⟩ := bind_eq_ok.1 h
    cases result
    exact ⟨nul_not_mem_of_string text, trivial⟩
  case h_6 =>
    obtain ⟨⟨bytes, c₁⟩, blob, result⟩ := bind_eq_ok.1 h
    cases result
    exact ⟨trivial, length_of_blob blob⟩
  case h_7 =>
    obtain ⟨⟨seconds, c₁⟩, -, h⟩ := bind_eq_ok.1 h
    obtain ⟨⟨fractional, c₂⟩, -, result⟩ := bind_eq_ok.1 h
    cases result
    exact ⟨trivial, trivial⟩
  case h_8 =>
    obtain ⟨⟨n, c₁⟩, -, h⟩ := bind_eq_ok.1 h
    dsimp only at h
    split at h
    · cases h
      exact ⟨trivial, trivial⟩
    · cases h
  case h_9 | h_10 =>
    obtain ⟨⟨bytes, c₁⟩, -, h⟩ := bind_eq_ok.1 h
    split at h
    · cases h
      exact ⟨trivial, trivial⟩
    · cases h
  case h_11 | h_12 | h_13 | h_14 =>
    cases h
    exact ⟨trivial, trivial⟩
  case h_15 => cases h

theorem leavesOf_append {P : Argument → Prop} {as as' : List Argument} (h : LeavesOf P as)
    (h' : LeavesOf P as') : LeavesOf P (as ++ as') := by
  induction as with
  | nil => exact h'
  | cons a rest ih => exact ⟨h.1, ih h.2⟩

/-- Brackets move arguments between the open lists and into arrays, and change none of them. -/
theorem leavesOf_arguments {outer : List (List Argument)} {items result : List Argument}
    {c : Cursor} {tags : List Char} (houter : ∀ as ∈ outer, LeavesOf Argument.Portable as)
    (hitems : LeavesOf Argument.Portable items)
    (h : Cursor.arguments outer items c tags = .ok result) : LeavesOf Argument.Portable result := by
  fun_induction Cursor.arguments outer items c tags with
  | case1 =>
    cases h
    exact hitems
  | case2 outer items c tags ih =>
    refine ih ?_ trivial h
    intro as has
    rcases List.mem_cons.1 has with rfl | has
    · exact hitems
    · exact houter as has
  | case3 => cases h
  | case4 items c tags enclosing outer ih =>
    refine ih (fun as has => houter as (List.mem_cons_of_mem _ has)) ?_ h
    exact leavesOf_append (houter enclosing List.mem_cons_self) ⟨hitems, trivial⟩
  | case5 outer items c tag tags _ _ ih =>
    obtain ⟨⟨a, c₁⟩, read, h⟩ := bind_eq_ok.1 h
    exact ih a c₁ houter (leavesOf_append hitems ⟨leaves_of_argument read, trivial⟩) h

/-! ## Messages -/

/-- The messages that can be received are those that are written without loss. -/
theorem exists_decode_iff {m : Message} :
    (∃ datagram, decode datagram = .ok (.message m)) ↔
      IsAddress m.address ∧ LeavesOf Argument.Portable m.arguments := by
  constructor
  · rintro ⟨datagram, h⟩
    simp only [decode, Cursor.packet] at h
    split at h
    · cases h
    obtain ⟨⟨address, c₁⟩, first, h⟩ := bind_eq_ok.1 h
    split at h
    · rename_i slash
      obtain ⟨⟨tags, c₂⟩, -, h⟩ := bind_eq_ok.1 h
      obtain ⟨arguments, read, result⟩ := bind_eq_ok.1 h
      cases result
      have none_open : ∀ as ∈ ([] : List (List Argument)), LeavesOf Argument.Portable as := by
        simp
      exact ⟨⟨List.head?_eq_some_iff.1 slash, nul_not_mem_of_string first⟩,
        leavesOf_arguments none_open (by trivial) read⟩
    · split at h
      · obtain ⟨_, -, result⟩ := bind_eq_ok.1 h
        cases result
      · cases h
  · rintro ⟨address, portable⟩
    exact ⟨m.encodeAs m.address, decode_encode address portable⟩

/-! ## Messages that come back -/

mutual

theorem Argument.leaves_and {P Q : Argument → Prop} (a : Argument) :
    a.Leaves (fun b => P b ∧ Q b) ↔ a.Leaves P ∧ a.Leaves Q := by
  cases a with
  | array items => exact leavesOf_and items
  | _ => exact Iff.rfl

theorem leavesOf_and {P Q : Argument → Prop} (as : List Argument) :
    LeavesOf (fun b => P b ∧ Q b) as ↔ LeavesOf P as ∧ LeavesOf Q as := by
  cases as with
  | nil => exact ⟨fun _ => ⟨trivial, trivial⟩, fun _ => trivial⟩
  | cons a rest =>
    unfold LeavesOf
    rw [a.leaves_and, leavesOf_and rest]
    exact and_and_and_comm

end

/-- A message whose blobs fit comes back from its datagram, under the path it is sent to and with just
its arguments, exactly if the path starts with a slash and neither the path nor a text among the
arguments, however deep in arrays, holds a NUL. Its own address plays no part. -/
theorem decode_encodeAs_iff {m : Message} (fits : LeavesOf Argument.Fits m.arguments)
    (path : String) :
    (decode (m.encodeAs path) = .ok (.message ⟨path, m.arguments⟩) ↔
        (∃ rest, path.toList = '/' :: rest) ∧ '\x00' ∉ path.toList ∧
          LeavesOf Argument.NulFree m.arguments) ∧
      ∀ address, (⟨address, m.arguments⟩ : Message).encodeAs path = m.encodeAs path := by
  refine ⟨?_, fun _ => rfl⟩
  constructor
  · intro h
    obtain ⟨legal, portable⟩ := exists_decode_iff.1 ⟨_, h⟩
    obtain ⟨nul_free, -⟩ := (leavesOf_and m.arguments).1 portable
    exact ⟨legal.slash, legal.nul_free, nul_free⟩
  · rintro ⟨slash, nul, nul_free⟩
    exact decode_encode ⟨slash, nul⟩ ((leavesOf_and m.arguments).2 ⟨nul_free, fits⟩)

/-- A message from an address that no datagram can have, with arrays in arrays, an empty text, a blob
and a number that is none; and the same message with a NUL in its innermost text. -/
theorem decode_encodeAs_nested :
    let around (text : String) : Message :=
      ⟨"a\x00", [.array [.array [.string text, .float 0x7FC00001], .blob [0, 1, 2]], .string ""]⟩
    decode ((around "hi").encodeAs "/x//") = .ok (.message ⟨"/x//", (around "hi").arguments⟩) ∧
      decode ((around "h\x00").encodeAs "/x//") ≠
        .ok (.message ⟨"/x//", (around "h\x00").arguments⟩) ∧
      decode ((around "hi").encodeAs "#bundle") ≠
        .ok (.message ⟨"#bundle", (around "hi").arguments⟩) := by
  intro around
  have fits (text : String) : LeavesOf Argument.Fits (around text).arguments := by
    simp [around, LeavesOf, Argument.Leaves, Argument.Fits]
  refine ⟨?_, ?_, ?_⟩
  · refine ((decode_encodeAs_iff (fits "hi") "/x//").1).2 ⟨⟨['x', '/', '/'], by decide⟩, by decide, ?_⟩
    simp [around, LeavesOf, Argument.Leaves, Argument.NulFree]
  · intro back
    obtain ⟨-, -, nul_free⟩ := ((decode_encodeAs_iff (fits "h\x00") "/x//").1).1 back
    simp [around, LeavesOf, Argument.Leaves, Argument.NulFree] at nul_free
  · intro back
    obtain ⟨⟨rest, slash⟩, -⟩ := ((decode_encodeAs_iff (fits "hi") "#bundle").1).1 back
    simp at slash

end Patchbay.Osc
