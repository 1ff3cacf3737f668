/-
Whole numbers in decimal digits. Only the ten ASCII digits count, leading zeros are allowed, and
at least one digit is needed.
-/
namespace Patchbay.Text

/-- The value of a non-empty run of ASCII digits. -/
def natOf? (cs : List Char) : Option Nat :=
  if cs ≠ [] ∧ cs.all Char.isDigit then some (Nat.ofDigitChars 10 cs 0) else none

/-- A count: at most one leading plus sign, then digits. -/
def countOf? : List Char → Option Nat
  | '+' :: ds => natOf? ds
  | ds => natOf? ds

/-- A port number: a count up to 65535. -/
def portOf? (cs : List Char) : Option UInt16 :=
  match countOf? cs with
  | some n => if n < 65536 then some (UInt16.ofNat n) else none
  | none => none

/-- A signed number: at most one leading sign, then digits. -/
def intOf? : List Char → Option Int
  | '+' :: ds => (natOf? ds).map Int.ofNat
  | '-' :: ds => (natOf? ds).map fun n => -Int.ofNat n
  | ds => (natOf? ds).map Int.ofNat

end Patchbay.Text
