/-
TOML scalars without quotes: booleans, integers, floats, dates and times. Such a scalar is read as
a whole from the run of characters that makes it up, and one that names no value is `none`.
-/
import Patchbay.Text.Number
import Patchbay.Toml.Value

namespace Patchbay.Toml

/-! ## Numbers -/

/-- Digits with single underscores between them; the digits alone. -/
def digits? (isDigit : Char → Bool) (cs : List Char) : Option (List Char) :=
  let groups := cs.splitOn '_'
  if groups.all fun g => !g.isEmpty && g.all isDigit then some groups.flatten else none

/-- Decimal digits without a leading zero. -/
def plainDigits? (cs : List Char) : Option (List Char) :=
  match digits? Char.isDigit cs with
  | some ['0'] => some ['0']
  | some ('0' :: _) => none
  | ds => ds

/-- Whether a minus sign stands in front, and what follows the sign. -/
def sign : List Char → Bool × List Char
  | '-' :: cs => (true, cs)
  | '+' :: cs => (false, cs)
  | cs => (false, cs)

def digitValue (c : Char) : Nat :=
  if c.isDigit then c.toNat - '0'.toNat else 10 + (c.toLower.toNat - 'a'.toNat)

/-- A digit of the base, letters of either case from ten on. -/
def isDigitOf (base : Nat) (c : Char) : Bool :=
  (c.isDigit || ('a' ≤ c.toLower && c.toLower ≤ 'f')) && decide (digitValue c < base)

def valueOf (base : Nat) (digits : List Char) : Nat :=
  digits.foldl (fun n d => base * n + digitValue d) 0

/-- Integers have 64 bits. -/
def integerOf? (n : Int) : Option Value :=
  if -9223372036854775808 ≤ n ∧ n ≤ 9223372036854775807 then some (.integer n) else none

def inBase? (base : Nat) (cs : List Char) : Option Value := do
  let ds ← digits? (isDigitOf base) cs
  integerOf? (valueOf base ds)

def integer? : List Char → Option Value
  | '0' :: 'x' :: cs => inBase? 16 cs
  | '0' :: 'o' :: cs => inBase? 8 cs
  | '0' :: 'b' :: cs => inBase? 2 cs
  | cs => do
    let (negative, cs) := sign cs
    let n := valueOf 10 (← plainDigits? cs)
    integerOf? (if negative then -(n : Int) else n)

/-- The least number that is nearer to infinity than to any double. -/
def overflowBound : Nat := Nat.pow 2 1024 - Nat.pow 2 970

/-- Whether the digits, times a power of ten, are beyond every double. Only a number of the size of
the bound is computed. -/
def overflows (digits : List Char) (exponent : Int) : Bool :=
  let significant := digits.dropWhile (· == '0')
  let size := significant.length + exponent
  if significant.isEmpty || size ≤ 308 then false
  else if 310 ≤ size then true
  else
    let n := valueOf 10 significant
    if 0 ≤ exponent then decide (overflowBound ≤ n * Nat.pow 10 exponent.toNat)
    else decide (overflowBound * Nat.pow 10 exponent.natAbs ≤ n)

/-- The power of ten that a float is written with. -/
def exponent? (cs : List Char) : Option Int := do
  let (negative, cs) := sign cs
  let n := valueOf 10 (← digits? Char.isDigit cs)
  return if negative then -(n : Int) else n

def isExponentMark (c : Char) : Bool := c == 'e' || c == 'E'

/-- All digits of a float without its sign, and the power of ten they are taken times. A fraction or
an exponent is needed. -/
def decimal? (cs : List Char) : Option (List Char × Int) := do
  let significand := cs.takeWhile (!isExponentMark ·)
  let exponent ← match cs.dropWhile (!isExponentMark ·) with
    | [] => some none
    | _ :: cs => (exponent? cs).map some
  let whole ← plainDigits? (significand.takeWhile (· != '.'))
  match significand.dropWhile (· != '.'), exponent with
  | [], none => none
  | [], some e => return (whole, e)
  | _ :: cs, e => do
    let fraction ← digits? Char.isDigit cs
    return (whole ++ fraction, e.getD 0 - fraction.length)

/-- A float keeps its text. One that is too large is none, unless it is negative. -/
def float? (cs : List Char) : Option Value := do
  let (negative, magnitude) := sign cs
  if magnitude = "inf".toList ∨ magnitude = "nan".toList then
    return .float (String.ofList cs)
  else
    let (digits, exponent) ← decimal? magnitude
    if !negative && overflows digits exponent then none else return .float (String.ofList cs)

/-! ## Dates and times -/

/-- So many digits with a value between the bounds, and what follows them. -/
def field? (width least greatest : Nat) (cs : List Char) : Option (Nat × List Char) := do
  let ds := cs.take width
  if ds.length ≠ width then none
  else
    let n ← Text.natOf? ds
    if least ≤ n ∧ n ≤ greatest then return (n, cs.drop width) else none

/-- What follows the given character. -/
def after? (c : Char) : List Char → Option (List Char)
  | d :: cs => if d = c then some cs else none
  | [] => none

def daysOfMonth (year month : Nat) : Nat :=
  if month = 2 then
    if year % 4 = 0 ∧ (year % 100 ≠ 0 ∨ year % 400 = 0) then 29 else 28
  else if month ∈ [4, 6, 9, 11] then 30
  else 31

/-- What follows a date. -/
def date? (cs : List Char) : Option (List Char) := do
  let (year, cs) ← field? 4 0 9999 cs
  let (month, cs) ← field? 2 1 12 (← after? '-' cs)
  let (_, cs) ← field? 2 1 (daysOfMonth year month) (← after? '-' cs)
  return cs

/-- What follows a time of day. A minute may have a leap second. -/
def time? (cs : List Char) : Option (List Char) := do
  let (_, cs) ← field? 2 0 23 cs
  let (_, cs) ← field? 2 0 59 (← after? ':' cs)
  let (_, cs) ← field? 2 0 60 (← after? ':' cs)
  match cs with
  | '.' :: cs =>
    if (cs.takeWhile Char.isDigit).isEmpty then none else return cs.dropWhile Char.isDigit
  | cs => return cs

/-- What follows the distance from universal time. -/
def offset? : List Char → Option (List Char)
  | 'Z' :: cs => some cs
  | 'z' :: cs => some cs
  | c :: cs => do
    if c = '+' ∨ c = '-' then
      let (_, cs) ← field? 2 0 23 cs
      let (_, cs) ← field? 2 0 59 (← after? ':' cs)
      return cs
    else none
  | [] => none

def isTimeMark (c : Char) : Bool := c == 'T' || c == 't' || c == ' '

/-- A date, a time of day, or both with an offset or without one. -/
def isDatetime (cs : List Char) : Bool :=
  match date? cs with
  | none => time? cs == some []
  | some [] => true
  | some (c :: cs) => isTimeMark c && match time? cs with
    | none => false
    | some [] => true
    | some cs => offset? cs == some []

/-! ## All scalars -/

/-- The value that a run of characters without a quote writes. -/
def scalar? (cs : List Char) : Option Value :=
  if cs = "true".toList then some (.boolean true)
  else if cs = "false".toList then some (.boolean false)
  else if isDatetime cs then some (.datetime (String.ofList cs))
  else (float? cs).or (integer? cs)

end Patchbay.Toml
