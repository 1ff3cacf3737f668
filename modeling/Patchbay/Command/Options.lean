/-
Command lines. Tokens that open an option have a dash in front: `--long`, `--long=value`, or a
cluster of single letters, the last of which may have a value right behind it. An option that takes
values has all tokens up to the next one with a dash, or one such token. Nothing may stand apart
from an option.

Reading a command line gives the occurrences of options in order; a program then takes them in one
by one, so that what is wrong with a later one does not keep an earlier one from its effect.
-/
import Patchbay.Text.Blank

namespace Patchbay.Command

/-- What an option takes. -/
inductive Takes where
  | nothing
  | one
  | several
  deriving DecidableEq, Repr

/-- How an option is written, and what its users are told about it. -/
structure Form (α : Type) where
  option : α
  short : Option Char
  long : String
  takes : Takes
  /-- What a value is called. -/
  value : String
  about : String

/-- One use of an option. -/
structure Occurrence (α : Type) where
  option : α
  values : List String
  deriving DecidableEq, Repr

/-- What a token with a dash in front opens, after the occurrences that it holds itself. -/
inductive Opening (α : Type) where
  | complete
  /-- Values may follow. -/
  | awaits (form : Form α)
  | unknown

variable {α : Type}

/-- Letters behind a single dash. -/
def cluster (forms : List (Form α)) : List Char → List (Occurrence α) × Opening α
  | [] => ([], .complete)
  | c :: cs => match forms.find? (·.short == some c) with
    | none => ([], .unknown)
    | some f => match f.takes, cs with
      | .nothing, cs =>
        let (occurrences, opening) := cluster forms cs
        (⟨f.option, []⟩ :: occurrences, opening)
      | _, [] => ([], .awaits f)
      | _, '=' :: cs => ([⟨f.option, [String.ofList cs]⟩], .complete)
      | _, cs => ([⟨f.option, [String.ofList cs]⟩], .complete)

/-- A name behind two dashes, with or without a value. -/
def named (forms : List (Form α)) (cs : List Char) : List (Occurrence α) × Opening α :=
  let (name, value) := match Text.cut? '=' cs with
    | some (name, value) => (name, some (String.ofList value))
    | none => (cs, none)
  match forms.find? (·.long == String.ofList name) with
  | none => ([], .unknown)
  | some f => match f.takes, value with
    | .nothing, none => ([⟨f.option, []⟩], .complete)
    | .nothing, some _ => ([], .unknown)
    | _, some value => ([⟨f.option, [value]⟩], .complete)
    | _, none => ([], .awaits f)

def opening (forms : List (Form α)) (token : String) : List (Occurrence α) × Opening α :=
  match token.toList with
  | '-' :: '-' :: cs => named forms cs
  | '-' :: c :: cs => cluster forms (c :: cs)
  | _ => ([], .unknown)

/-- A dash alone is a value, not an option. -/
def isValue (token : String) : Bool :=
  match token.toList with
  | '-' :: _ :: _ => false
  | _ => true

/-- The values at the front of `tokens` that go to an option. -/
def valuesFor (takes : Takes) (tokens : List String) : List String :=
  let values := tokens.takeWhile isValue
  match takes with
  | .nothing => []
  | .one => values.take 1
  | .several => values

/-- The occurrences up to the first token that is out of place, and whether there is none. -/
def occurrences (forms : List (Form α)) : List String → List (Occurrence α) × Bool
  | [] => ([], true)
  | token :: rest =>
    if token = "--" then ([], rest.isEmpty)
    else match opening forms token with
      | (here, .unknown) => (here, false)
      | (here, .complete) =>
        let (later, fits) := occurrences forms rest
        (here ++ later, fits)
      | (here, .awaits f) =>
        let values := valuesFor f.takes rest
        let (later, fits) := occurrences forms (rest.drop values.length)
        (here ++ ⟨f.option, values⟩ :: later, fits)
termination_by tokens => tokens.length
decreasing_by
  · simp
  · simp only [List.length_drop, List.length_cons]; omega

/-! ## Taking the occurrences in -/

/-- What a command line asks for. -/
inductive Asked (ω : Type) where
  | run (options : ω)
  | version
  | help
  /-- The command line is wrong. -/
  | misuse
  deriving DecidableEq, Repr

/-- Takes occurrences in until one asks for something else than to run. -/
def takeIn {ω : Type} (accept : ω → Occurrence α → Asked ω) (fits : Bool) (options : ω) :
    List (Occurrence α) → Asked ω
  | [] => if fits then .run options else .misuse
  | o :: rest => match accept options o with
    | .run options => takeIn accept fits options rest
    | asked => asked

/-! ## Help -/

def Form.usage (f : Form α) : String :=
  let short := match f.short with
    | some c => "-" ++ String.singleton c ++ ", "
    | none => "    "
  let value := match f.takes with
    | .nothing => ""
    | .one => " <" ++ f.value ++ ">"
    | .several => " <" ++ f.value ++ ">..."
  "  " ++ short ++ "--" ++ f.long ++ value

/-- The help text of a program. -/
def help (program about : String) (forms : List (Form α)) : String :=
  let width := (forms.map fun f => f.usage.length).foldl max 0 + 2
  let line (f : Form α) : String :=
    f.usage ++ String.ofList (List.replicate (width - f.usage.length) ' ') ++ f.about ++ "\n"
  about ++ "\n\nUsage: " ++ program ++ " [OPTIONS]\n\nOptions:\n" ++ String.join (forms.map line)

/-! ## Ends of programs -/

/-- How a program ends: its exit code, what it printed, and what went wrong. -/
structure Exit where
  code : Nat := 0
  output : String := ""
  failure : Option String := none
  deriving DecidableEq, Repr

/-- A program that fails says so under its name. -/
def Exit.failed (program message : String) : Exit :=
  { code := 1, failure := some (program ++ ": " ++ message) }

def Exit.misuse : Exit := { code := 2 }

def versionText (program : String) : String := program ++ " 0.1.0\n"

end Patchbay.Command
