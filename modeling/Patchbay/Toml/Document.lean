/-
TOML documents: the grammar of keys, strings, arrays, inline tables and statements. Every parser
takes the characters that are left and gives what it has read with the characters after it, or
`none` if they do not fit. A document is read with its line ends as single line feeds.
-/
import Patchbay.Toml.Scalar

namespace Patchbay.Toml

/-! ## Blanks, comments and line ends -/

def isSpace (c : Char) : Bool := c == ' ' || c == '\t'

/-- A character that may stand in a comment, and in a string within a line. -/
def isText (c : Char) : Bool := c == '\t' || (decide (' ' ≤ c) && c != '\x7f')

def skipSpaces (cs : List Char) : List Char := cs.dropWhile isSpace

/-- Skips spaces, line ends and comments. -/
def skipGap : List Char → List Char
  | [] => []
  | c :: cs =>
    if isSpace c || c == '\n' then skipGap cs
    else if c == '#' then skipGap (cs.dropWhile isText)
    else c :: cs
termination_by cs => cs.length
decreasing_by
  · simp
  · have := (List.dropWhile_suffix (l := cs) isText).length_le
    simp only [List.length_cons]
    omega

/-- What follows the end of a line, which a comment may come before. -/
def lineEnd? (cs : List Char) : Option (List Char) :=
  let cs := match skipSpaces cs with
    | '#' :: cs => cs.dropWhile isText
    | cs => cs
  match cs with
  | [] => some []
  | '\n' :: cs => some cs
  | _ => none

/-! ## Strings -/

/-- The kinds of strings: the mark around one, and whether a backslash escapes in it. -/
structure Quoting where
  mark : Char
  escapes : Bool

def basic : Quoting := ⟨'\x22', true⟩
def literal : Quoting := ⟨'\x27', false⟩

/-- The character of a code written in so many hexadecimal digits. -/
def coded? (width : Nat) (cs : List Char) : Option Char := do
  let ds := cs.take width
  if ds.length = width ∧ ds.all (isDigitOf 16) then
    let n := valueOf 16 ds
    if n.isValidChar then return Char.ofNat n else none
  else none

/-- What an escape stands for, and its length after the backslash. -/
def escape? : List Char → Option (List Char × Nat)
  | 'b' :: _ => some (['\x08'], 1)
  | 't' :: _ => some (['\t'], 1)
  | 'n' :: _ => some (['\n'], 1)
  | 'f' :: _ => some (['\x0c'], 1)
  | 'r' :: _ => some (['\r'], 1)
  | '\x22' :: _ => some (['\x22'], 1)
  | '\\' :: _ => some (['\\'], 1)
  | 'u' :: cs => (coded? 4 cs).map fun c => ([c], 5)
  | 'U' :: cs => (coded? 8 cs).map fun c => ([c], 9)
  | _ => none

/-- An escape in a string of several lines: at the end of a line it stands for nothing, and takes
the line end and all blanks after it with it. -/
def blockEscape? (cs : List Char) : Option (List Char × Nat) :=
  match skipSpaces cs with
  | '\n' :: _ => some ([], (cs.takeWhile fun c => isSpace c || c == '\n').length)
  | _ => escape? cs

/-- The rest of a string within one line. -/
def line? (q : Quoting) : List Char → Option (List Char × List Char)
  | [] => none
  | c :: cs =>
    if c = q.mark then some ([], cs)
    else if q.escapes ∧ c = '\\' then do
      let (front, size) ← escape? cs
      let (text, cs) ← line? q (cs.drop size)
      return (front ++ text, cs)
    else if isText c then do
      let (text, cs) ← line? q cs
      return (c :: text, cs)
    else none
termination_by cs => cs.length
decreasing_by all_goals simp only [List.length_cons, List.length_drop]; omega

/-- The rest of a string of several lines. Up to two marks may stand before the closing three. -/
def block? (q : Quoting) : List Char → Option (List Char × List Char)
  | [] => none
  | c :: cs =>
    if c = q.mark then
      let more := (cs.takeWhile (· == q.mark)).length
      if more < 2 then do
        let (text, cs) ← block? q (cs.drop more)
        return (List.replicate (more + 1) q.mark ++ text, cs)
      else if more < 5 then some (List.replicate (more - 2) q.mark, cs.drop more)
      else none
    else if q.escapes ∧ c = '\\' then do
      let (front, size) ← blockEscape? cs
      let (text, cs) ← block? q (cs.drop size)
      return (front ++ text, cs)
    else if isText c || c == '\n' then do
      let (text, cs) ← block? q cs
      return (c :: text, cs)
    else none
termination_by cs => cs.length
decreasing_by all_goals simp only [List.length_cons, List.length_drop]; omega

/-- A string that opens with the mark; three marks open one of several lines, whose first line end
does not count. -/
def quoted? (q : Quoting) (cs : List Char) : Option (List Char × List Char) :=
  if cs.take 3 = List.replicate 3 q.mark then
    match cs.drop 3 with
    | '\n' :: cs => block? q cs
    | cs => block? q cs
  else line? q (cs.drop 1)

/-! ## Keys -/

def isBareKeyChar (c : Char) : Bool := c.isAlphanum || c == '_' || c == '-'

/-- One part of a key. -/
def keyPart? : List Char → Option (String × List Char)
  | '\x22' :: cs => (line? basic cs).map fun p => (String.ofList p.1, p.2)
  | '\x27' :: cs => (line? literal cs).map fun p => (String.ofList p.1, p.2)
  | cs =>
    let part := cs.takeWhile isBareKeyChar
    if part.isEmpty then none else some (String.ofList part, cs.dropWhile isBareKeyChar)

/-- A key of at most so many parts with points between them. -/
def keyUpTo? : Nat → List Char → Option (List String × List Char)
  | 0, _ => none
  | limit + 1, cs => do
    let (part, cs) ← keyPart? (skipSpaces cs)
    match skipSpaces cs with
    | '.' :: cs => do
      let (parts, cs) ← keyUpTo? limit cs
      return (part :: parts, cs)
    | cs => return ([part], cs)

/-- Keys have fewer than eighty parts, and values are nested less than eighty deep. -/
def depthLimit : Nat := 79

def key? (cs : List Char) : Option (List String × List Char) := keyUpTo? depthLimit cs

/-- A key in front of its value, as the tables on the way and the last part. -/
def assignment? (cs : List Char) : Option ((List String × String) × List Char) := do
  let (parts, cs) ← key? cs
  match cs with
  | '=' :: cs => return ((parts.dropLast, ← parts.getLast?), cs)
  | _ => none

/-! ## Values -/

/-- A character that ends a scalar. -/
def endsScalar (c : Char) : Bool :=
  isSpace c || c == '\n' || c == '\r' || c == '#' || c == ',' || c == ']' || c == '}'

/-- A scalar without quotes. A date may have one blank between it and the time of day. -/
def bare? (cs : List Char) : Option (Value × List Char) :=
  let front := cs.takeWhile (!endsScalar ·)
  let rest := cs.dropWhile (!endsScalar ·)
  let alone := (scalar? front).map fun v => (v, rest)
  match rest with
  | ' ' :: after =>
    let time := after.takeWhile (!endsScalar ·)
    let whole := front ++ ' ' :: time
    if date? front = some [] ∧ isDatetime whole then
      some (.datetime (String.ofList whole), after.dropWhile (!endsScalar ·))
    else alone
  | _ => alone

mutual

/-- A value nested at most `depth` deep. `fuel` bounds the number of steps. -/
def value? : Nat → Nat → List Char → Option (Value × List Char)
  | 0, _, _ => none
  | fuel + 1, depth, cs => match cs, depth with
    | '\x22' :: _, _ => (quoted? basic cs).map fun p => (.string (String.ofList p.1), p.2)
    | '\x27' :: _, _ => (quoted? literal cs).map fun p => (.string (String.ofList p.1), p.2)
    | '[' :: _, 0 => none
    | '[' :: cs, depth + 1 => (items? fuel depth cs).map fun p => (.array p.1, p.2)
    | '{' :: _, 0 => none
    | '{' :: cs, depth + 1 => do
      let (pairs, cs) ← match skipSpaces cs with
        | '}' :: cs => some ([], cs)
        | cs => pairs? fuel depth cs
      return (← inlineTable pairs, cs)
    | cs, _ => bare? cs

/-- The rest of an array. A comma may follow the last item. -/
def items? : Nat → Nat → List Char → Option (List Value × List Char)
  | 0, _, _ => none
  | fuel + 1, depth, cs => match skipGap cs with
    | ']' :: cs => some ([], cs)
    | cs => do
      let (item, cs) ← value? fuel depth cs
      match skipGap cs with
      | ',' :: cs => do
        let (items, cs) ← items? fuel depth cs
        return (item :: items, cs)
      | ']' :: cs => return ([item], cs)
      | _ => none

/-- The rest of an inline table with at least one more pair. -/
def pairs? : Nat → Nat → List Char → Option (List (List String × String × Value) × List Char)
  | 0, _, _ => none
  | fuel + 1, depth, cs => do
    let ((path, key), cs) ← assignment? cs
    let (v, cs) ← value? fuel depth (skipSpaces cs)
    match skipSpaces cs with
    | ',' :: cs => do
      let (pairs, cs) ← pairs? fuel depth cs
      return ((path, key, v) :: pairs, cs)
    | '}' :: cs => return ([(path, key, v)], cs)
    | _ => none

end

/-! ## Documents -/

/-- The statements of a document, one after the other. -/
def statements? : Nat → Document → List Char → Option Document
  | 0, _, _ => none
  | fuel + 1, d, cs => match skipSpaces cs with
    | [] => some d
    | '\n' :: cs => statements? fuel d cs
    | '#' :: cs => do statements? fuel d (← lineEnd? (cs.dropWhile isText))
    | '[' :: '[' :: cs => do
      let (path, cs) ← key? cs
      match cs with
      | ']' :: ']' :: cs => statements? fuel (← d.openElement path) (← lineEnd? cs)
      | _ => none
    | '[' :: cs => do
      let (path, cs) ← key? cs
      match cs with
      | ']' :: cs => statements? fuel (← d.openTable path) (← lineEnd? cs)
      | _ => none
    | cs => do
      let ((path, key), cs) ← assignment? cs
      let (v, cs) ← value? (2 * cs.length + 1) depthLimit (skipSpaces cs)
      statements? fuel (← d.addPair path key v) (← lineEnd? cs)

/-- The characters with each carriage return in front of a line feed left out. -/
def joinLineEnds : List Char → List Char
  | [] => []
  | '\r' :: '\n' :: cs => '\n' :: joinLineEnds cs
  | c :: cs => c :: joinLineEnds cs

/-- The entries of the table that a document writes; a byte order mark in front does not count. -/
def parse? (text : String) : Option (List (String × Value)) := do
  let cs := match text.toList with
    | '\ufeff' :: cs => cs
    | cs => cs
  let cs := joinLineEnds cs
  let d ← statements? (cs.length + 1) {} cs
  return entryValues (← d.close)

end Patchbay.Toml
