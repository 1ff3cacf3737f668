/-
Blank characters and the cuts made at them. A text is taken apart as a list of characters:
`words` are the longest runs without a blank, `strip` takes a class of characters off both ends,
and `cut?` splits at the first occurrence of one character.
-/
namespace Patchbay.Text

/-- The characters with the Unicode property White_Space, as inclusive ranges. -/
def blankRanges : List (Nat × Nat) :=
  [(0x09, 0x0D), (0x20, 0x20), (0x85, 0x85), (0xA0, 0xA0), (0x1680, 0x1680), (0x2000, 0x200A),
    (0x2028, 0x2029), (0x202F, 0x202F), (0x205F, 0x205F), (0x3000, 0x3000)]

/-- `n` lies in one of the inclusive ranges. -/
def inRanges (ranges : List (Nat × Nat)) (n : Nat) : Bool :=
  ranges.any fun r => decide (r.1 ≤ n) && decide (n ≤ r.2)

def isBlank (c : Char) : Bool := inRanges blankRanges c.toNat

/-- The runs of characters between blanks, none of them empty. -/
def words (cs : List Char) : List (List Char) :=
  (cs.splitOnP isBlank).filter fun w => !w.isEmpty

/-- `cs` without the characters of the class `p` at either end. -/
def strip (p : Char → Bool) (cs : List Char) : List Char :=
  ((cs.dropWhile p).reverse.dropWhile p).reverse

def trim (cs : List Char) : List Char := strip isBlank cs

/-- What stands before and after the first `c`. -/
def cut? (c : Char) : List Char → Option (List Char × List Char)
  | [] => none
  | d :: ds => if d = c then some ([], ds) else (cut? c ds).map fun p => (d :: p.1, p.2)

/-! ## Laws -/

theorem cut?_eq_none_iff {c : Char} {cs : List Char} : cut? c cs = none ↔ c ∉ cs := by
  induction cs with
  | nil => simp [cut?]
  | cons d ds ih =>
    by_cases h : d = c
    · simp [cut?, h]
    · simp [cut?, h, ih, Ne.symm h]

/-- A cut loses the separator alone, and the first part does not hold it. -/
theorem cut?_eq_some_iff {c : Char} {cs a b : List Char} :
    cut? c cs = some (a, b) ↔ cs = a ++ c :: b ∧ c ∉ a := by
  induction cs generalizing a with
  | nil => simp [cut?]
  | cons d ds ih =>
    by_cases h : d = c
    · subst h
      cases a with
      | nil => simp [cut?, eq_comm]
      | cons e a => simp [cut?, List.cons_append]; rintro rfl _ h; exact absurd rfl h
    · cases a with
      | nil => simp [cut?, h]
      | cons e a =>
        simp only [cut?, h, if_false, Option.map_eq_some_iff, Prod.exists, Prod.mk.injEq,
          List.cons.injEq, List.cons_append, List.mem_cons, not_or]
        constructor
        · rintro ⟨x, y, hxy, ⟨rfl, rfl⟩, rfl⟩
          obtain ⟨rfl, hn⟩ := ih.1 hxy
          exact ⟨⟨rfl, rfl⟩, Ne.symm h, hn⟩
        · rintro ⟨⟨rfl, rfl⟩, _, hn⟩
          exact ⟨a, b, ih.2 ⟨rfl, hn⟩, ⟨rfl, rfl⟩, rfl⟩

end Patchbay.Text
