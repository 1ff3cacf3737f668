/-
IEEE 754 numbers as bit patterns, in the two widths that messages carry, and their text.

The text is the shortest decimal that reads back. It is positional, with at least one digit after
the point, if the first digit stands between the fourth place after the point and the sixteenth
before it; otherwise it is one digit, the fraction if there is one, and the exponent after `e`.
-/
import Patchbay.Decimal.Shortest

namespace Patchbay.Decimal

/-- The widths of the two fields of an interchange format. -/
structure Format where
  fractionBits : Nat
  exponentBits : Nat
  deriving DecidableEq, Repr

def single : Format := ⟨23, 8⟩

def double : Format := ⟨52, 11⟩

/-- What a bit pattern stands for. -/
inductive Reading where
  | nan
  | infinite (negative : Bool)
  | zero (negative : Bool)
  | finite (negative : Bool) (magnitude : Binary)
  deriving DecidableEq, Repr

def Format.read (f : Format) (bits : Nat) : Reading :=
  let implicitBit := Nat.pow 2 f.fractionBits
  let exponents := Nat.pow 2 f.exponentBits
  let fraction := bits % implicitBit
  let exponent := bits / implicitBit % exponents
  let negative := bits / implicitBit / exponents % 2 == 1
  let offset : Int := (exponents / 2 - 1 + f.fractionBits : Nat)
  if exponent + 1 = exponents then
    if fraction = 0 then .infinite negative else .nan
  else if exponent = 0 then
    if fraction = 0 then .zero negative else .finite negative ⟨fraction, 1 - offset, false⟩
  else
    .finite negative
      ⟨implicitBit + fraction, exponent - offset, fraction == 0 && decide (1 < exponent)⟩

/-- The places of the first digit that are written positionally; the place of the units is 0. -/
def positionalPlaces : Int × Int := (-4, 15)

/-- The text of a positive decimal. -/
def Numeral.text (d : Numeral) : String :=
  let digits := (toString d.digits).toList
  let place : Int := d.exp + digits.length - 1
  if positionalPlaces.1 ≤ place ∧ place ≤ positionalPlaces.2 then
    if 0 ≤ d.exp then String.ofList (digits ++ List.replicate d.exp.toNat '0') ++ ".0"
    else
      let padded := List.replicate (-place).toNat '0' ++ digits
      let whole := padded.length - (-d.exp).toNat
      String.ofList (padded.take whole ++ '.' :: padded.drop whole)
  else
    let mantissa := match digits with
      | [] => []
      | c :: [] => [c]
      | c :: cs => c :: '.' :: cs
    String.ofList mantissa ++ "e" ++ toString place

def Reading.text : Reading → String
  | .nan => "NaN"
  | .infinite false => "inf"
  | .infinite true => "-inf"
  | .zero false => "0.0"
  | .zero true => "-0.0"
  | .finite false x => x.shortest.text
  | .finite true x => "-" ++ x.shortest.text

def singleText (bits : UInt32) : String := (single.read bits.toNat).text

def doubleText (bits : UInt64) : String := (double.read bits.toNat).text

end Patchbay.Decimal
