/-
Forwarding rules and the text of one record. A record is one line of a rule file:

  /head indicator target target …   # comment

The head is a single path segment. The indicator says whether a forwarded path keeps that segment.
-/
import Patchbay.Registry

namespace Patchbay

/-- Where a rule was written. Lines count from one. -/
structure Origin where
  file : String
  line : Nat
  deriving DecidableEq, Repr

structure Rule where
  head : String
  /-- Forwarded paths lose the head. -/
  truncate : Bool
  targets : List TargetId
  origin : Origin
  deriving DecidableEq, Repr

/-- The two indicators, and the flag each stands for. -/
def indicator (truncate : Bool) : String := if truncate then "-" else "+"

def indicator? (token : String) : Option Bool :=
  if token = indicator false then some false
  else if token = indicator true then some true
  else none

/-- What is wrong with a record. -/
inductive RecordError where
  | tooFewFields
  | emptyHead
  | severalSegments
  | badIndicator (token : String)
  | badTarget (token : String) (reason : Target.ParseError)
  deriving DecidableEq, Repr

namespace Record

/-- A line up to its comment. -/
def content (line : List Char) : List Char := line.takeWhile (· != '#')

def fields (line : List Char) : List String := (Text.words (content line)).map String.ofList

/-- The head that a field stands for; slashes around it do not count. -/
def head (field : String) : Except RecordError String :=
  let segment := Text.strip (· == '/') field.toList
  if segment.isEmpty then .error .emptyHead
  else if segment.contains '/' then .error .severalSegments
  else .ok (String.ofList segment)

/-- The targets before the first token that is none, and that token with what is wrong with it. -/
def targets : List String → List Target × Option RecordError
  | [] => ([], none)
  | token :: rest => match Target.parse token with
    | .error reason => ([], some (.badTarget token reason))
    | .ok t =>
      let (ts, fault) := targets rest
      (t :: ts, fault)

/-- The head and the flag of a record; the checks run from left to right. -/
def heading (first second : String) : Except RecordError (String × Bool) := do
  let segment ← head first
  match indicator? second with
  | some truncate => return (segment, truncate)
  | none => .error (.badIndicator second)

/-- What a line asks for. -/
inductive Reading where
  | blank
  | rule (head : String) (truncate : Bool) (targets : List Target)
  /-- A faulty record. `targets` are those read before the fault. -/
  | faulty (fault : RecordError) (targets : List Target)
  deriving DecidableEq, Repr

def readFields : List String → Reading
  | [] => .blank
  | first :: second :: token :: tokens => match heading first second with
    | .error fault => .faulty fault []
    | .ok (segment, truncate) => match targets (token :: tokens) with
      | (ts, none) => .rule segment truncate ts
      | (ts, some fault) => .faulty fault ts
  | _ => .faulty .tooFewFields []

def read (line : List Char) : Reading := readFields (fields line)

end Record

end Patchbay
