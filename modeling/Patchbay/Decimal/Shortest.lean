/-
The shortest decimal of a binary floating-point number: of the decimals that read back as the same
number, one with the fewest digits, and of those the nearest, the larger one on a tie.

A number is `mant * 2^exp`. The reals that round to it reach half a unit up and half a unit down,
or a quarter down where the numbers below lie twice as dense; the ends belong to it if and only if
`mant` is even. The search walks the decimal grids from coarse to fine and tests the two grid points
around the number, all in exact whole-number arithmetic.
-/
namespace Patchbay.Decimal

/-- `mant * 2^exp`, positive. `denseBelow` says that the numbers below are twice as dense. -/
structure Binary where
  mant : Nat
  exp : Int
  denseBelow : Bool
  deriving DecidableEq, Repr

/-- `digits * 10^exp`. -/
structure Numeral where
  digits : Nat
  exp : Int
  deriving DecidableEq, Repr

/-- Compares `a * 10^p` with `b * 2^q`. -/
def compareScaled (a : Nat) (p : Int) (b : Nat) (q : Int) : Ordering :=
  compare (a * Nat.pow 10 p.toNat * Nat.pow 2 (-q).toNat)
    (b * Nat.pow 2 q.toNat * Nat.pow 10 (-p).toNat)

/-- `d` reads back as `x`. -/
def Binary.covers (x : Binary) (d : Numeral) : Bool :=
  let low := 4 * x.mant - (if x.denseBelow then 1 else 2)
  let high := 4 * x.mant + 2
  let inclusive := x.mant % 2 == 0
  (match compareScaled d.digits d.exp low (x.exp - 2) with
    | .gt => true
    | .eq => inclusive
    | .lt => false) &&
  (match compareScaled d.digits d.exp high (x.exp - 2) with
    | .lt => true
    | .eq => inclusive
    | .gt => false)

/-- The greatest point at or below `x` on the grid of multiples of `10^p`, in units of the grid. -/
def Binary.floorAt (x : Binary) (p : Int) : Nat :=
  x.mant * Nat.pow 2 x.exp.toNat * Nat.pow 10 (-p).toNat /
    (Nat.pow 2 (-x.exp).toNat * Nat.pow 10 p.toNat)

/-- The point of the grid of multiples of `10^p` that reads back as `x`, the nearer one if both
neighbours do. -/
def Binary.onGrid? (x : Binary) (p : Int) : Option Numeral :=
  let below : Numeral := ⟨x.floorAt p, p⟩
  let above : Numeral := ⟨x.floorAt p + 1, p⟩
  match x.covers below, x.covers above with
  | false, false => none
  | true, false => some below
  | false, true => some above
  | true, true =>
    if compareScaled (2 * below.digits + 1) p (2 * x.mant) x.exp = .gt then some below else some above

/-- The first hit on the grids `10^p`, `10^(p-1)`, … -/
def Binary.search (x : Binary) : Nat → Int → Option Numeral
  | 0, _ => none
  | fuel + 1, p => match x.onGrid? p with
    | some d => some d
    | none => x.search fuel (p - 1)

/-- An exponent of ten at or above that of the first digit of `x`. -/
def Binary.firstGrid (x : Binary) : Int := (x.mant.log2 + x.exp + 1) * 3 / 10 + 3

/-- Twenty-four grids reach from `firstGrid` past the seventeenth digit, at which every number of
up to 53 bits is alone. -/
def Binary.shortest (x : Binary) : Numeral := (x.search 24 x.firstGrid).getD ⟨0, 0⟩

end Patchbay.Decimal
