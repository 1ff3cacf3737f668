/-
Socket addresses: an IPv4 or IPv6 address with a port, their text, and reading them from text.

A reading takes the whole text. An IPv4 address is four decimal numbers without leading zeros; an
IPv6 address stands in brackets, its groups have one to four hexadecimal digits, a double colon
stands for one or more groups of zeros, the last two groups may be written as an IPv4 address, and
a numeric scope may follow.
-/
import Patchbay.Text.Blank

namespace Patchbay.Net

inductive IpAddress where
  | v4 (a b c d : UInt8)
  | v6 (groups : Vector UInt16 8)
  deriving DecidableEq, Repr

structure SocketAddress where
  ip : IpAddress
  port : UInt16
  /-- The scope of an IPv6 address; zero if there is none. -/
  scope : UInt32 := 0
  deriving DecidableEq, Repr

def IpAddress.isV4 : IpAddress → Bool
  | .v4 _ _ _ _ => true
  | .v6 _ => false

/-! ## Text -/

def dotted (a b c d : Nat) : String :=
  String.intercalate "." ([a, b, c, d].map toString)

def groupText (n : Nat) : String := String.ofList (Nat.toDigits 16 n)

/-- The start and length of the longest run of zeros, the first of several. -/
def longestZeros (start : Nat) : List Nat → Nat × Nat
  | [] => (start, 0)
  | g :: gs =>
    let here := ((g :: gs).takeWhile (· == 0)).length
    let later := longestZeros (start + 1) gs
    if here = 0 ∨ here < later.2 then later else (start, here)

/-- Groups between colons; the longest run of two or more zeros becomes a double colon. An IPv4
address mapped into IPv6 keeps its dots. -/
def groupsText (gs : List Nat) : String :=
  match gs with
  | [0, 0, 0, 0, 0, 0xFFFF, x, y] => "::ffff:" ++ dotted (x / 256) (x % 256) (y / 256) (y % 256)
  | gs =>
    let colons (gs : List Nat) := String.intercalate ":" (gs.map groupText)
    let (start, length) := longestZeros 0 gs
    if length < 2 then colons gs
    else colons (gs.take start) ++ "::" ++ colons (gs.drop (start + length))

def IpAddress.text : IpAddress → String
  | .v4 a b c d => dotted a.toNat b.toNat c.toNat d.toNat
  | .v6 groups => groupsText (groups.toList.map UInt16.toNat)

def SocketAddress.text (a : SocketAddress) : String :=
  let port := ":" ++ toString a.port.toNat
  match a.ip with
  | .v4 _ _ _ _ => a.ip.text ++ port
  | .v6 _ =>
    let scope := if a.scope = 0 then "" else "%" ++ toString a.scope.toNat
    "[" ++ a.ip.text ++ scope ++ "]" ++ port

/-! ## Reading -/

/-- The value of a hexadecimal digit. -/
def hexDigit? (c : Char) : Option Nat :=
  if '0' ≤ c ∧ c ≤ '9' then some (c.toNat - '0'.toNat)
  else if 'a' ≤ c ∧ c ≤ 'f' then some (c.toNat - 'a'.toNat + 10)
  else if 'A' ≤ c ∧ c ≤ 'F' then some (c.toNat - 'A'.toNat + 10)
  else none

/-- The value of `c` as a digit of `base`, which is at most 16. -/
def digit? (base : Nat) (c : Char) : Option Nat := (hexDigit? c).filter (· < base)

/-- All digits at the front as one number below `limit`, and what follows them. -/
def number? (base limit : Nat) (cs : List Char) : Option (Nat × List Char) :=
  let digits := cs.takeWhile fun c => (digit? base c).isSome
  let value := (digits.filterMap (digit? base)).foldl (fun n d => n * base + d) 0
  if digits.isEmpty ∨ limit ≤ value then none else some (value, cs.drop digits.length)

/-- A number of an IPv4 address: at most 255 and without leading zeros. -/
def octet? (cs : List Char) : Option (UInt8 × List Char) :=
  match cs with
  | '0' :: d :: _ => if (digit? 10 d).isSome then none else some (0, cs.drop 1)
  | _ => (number? 10 256 cs).map fun r => (UInt8.ofNat r.1, r.2)

/-- The part of `cs` after the character `c`. -/
def after? (c : Char) : List Char → Option (List Char)
  | d :: ds => if d = c then some ds else none
  | [] => none

/-- Four octets with dots between them. -/
def ipv4? (cs : List Char) : Option ((UInt8 × UInt8 × UInt8 × UInt8) × List Char) := do
  let (a, cs) ← octet? cs
  let (b, cs) ← octet? (← after? '.' cs)
  let (c, cs) ← octet? (← after? '.' cs)
  let (d, cs) ← octet? (← after? '.' cs)
  return ((a, b, c, d), cs)

/-- One group of at most four hexadecimal digits. -/
def group? (cs : List Char) : Option (Nat × List Char) :=
  if 4 < (cs.takeWhile fun c => (digit? 16 c).isSome).length then none else number? 16 65536 cs

/-- Up to `limit` groups with colons between them, whether the last two were written as an IPv4
address, and what follows. -/
def groups (first : Bool) : Nat → List Char → List Nat × Bool × List Char
  | 0, cs => ([], false, cs)
  | limit + 1, cs =>
    match if first then some cs else after? ':' cs with
    | none => ([], false, cs)
    | some body =>
      match if 0 < limit then ipv4? body else none with
      | some ((a, b, c, d), rest) =>
        ([a.toNat * 256 + b.toNat, c.toNat * 256 + d.toNat], true, rest)
      | none => match group? body with
        | none => ([], false, cs)
        | some (g, rest) =>
          let (gs, dots, rest) := groups false limit rest
          (g :: gs, dots, rest)

/-- The eight groups of an IPv6 address. -/
def ipv6? (cs : List Char) : Option (List Nat × List Char) := do
  let (front, dots, rest) := groups true 8 cs
  if front.length = 8 then return (front, rest)
  if dots then none
  let rest ← after? ':' (← after? ':' rest)
  let (back, _, rest) := groups true (7 - front.length) rest
  return (front ++ List.replicate (8 - front.length - back.length) 0 ++ back, rest)

/-- A port after its colon, with any number of leading zeros. -/
def port? (cs : List Char) : Option UInt16 := do
  let (n, rest) ← number? 10 65536 (← after? ':' cs)
  if rest.isEmpty then some (UInt16.ofNat n) else none

def vectorOf? (gs : List Nat) : Option (Vector UInt16 8) :=
  if h : gs.length = 8 then some ⟨(gs.map UInt16.ofNat).toArray, by simp [h]⟩ else none

/-- A scope after its percent sign, or no scope. -/
def scope? (cs : List Char) : Option (Nat × List Char) :=
  match cs with
  | '%' :: digits => number? 10 4294967296 digits
  | _ => some (0, cs)

def bracketedAddress? (cs : List Char) : Option SocketAddress := do
  let (gs, rest) ← ipv6? (← after? '[' cs)
  let (scope, rest) ← scope? rest
  let port ← port? (← after? ']' rest)
  return ⟨.v6 (← vectorOf? gs), port, UInt32.ofNat scope⟩

def plainAddress? (cs : List Char) : Option SocketAddress := do
  let ((a, b, c, d), rest) ← ipv4? cs
  return ⟨.v4 a b c d, ← port? rest, 0⟩

/-- A whole text as a socket address. -/
def SocketAddress.parse? (text : String) : Option SocketAddress :=
  plainAddress? text.toList <|> bracketedAddress? text.toList

/-- A whole text as an IPv4 address. -/
def IpAddress.parseV4? (text : String) : Option IpAddress :=
  match ipv4? text.toList with
  | some ((a, b, c, d), []) => some (.v4 a b c d)
  | _ => none

end Patchbay.Net
