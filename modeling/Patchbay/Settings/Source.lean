/-
Where settings come from: the file that is asked for, else the first default file there is, else
the defaults.
-/
import Patchbay.Settings.Problem
import Patchbay.Settings.Reading

namespace Patchbay

/-- Why there are no settings to run with. -/
inductive SettingsError where
  | unreadable (path reason : String)
  | malformed (path : String)
  | invalid (problems : List Problem)
  deriving DecidableEq, Repr

def SettingsError.message : SettingsError → String
  | .unreadable path reason => s!"IO error reading {path}: {reason}"
  | .malformed path => s!"Parse error in {path}"
  | .invalid problems =>
    "Validation failed: " ++ String.intercalate ", " (problems.map Problem.message)

namespace Settings

def defaultLocations : List String := ["osctoolkit.toml", "/etc/osctoolkit/osctoolkit.toml"]

/-- The first of the paths at which there is a file. -/
def locate? (isFile : String → Bool) (candidates : List String) : Option String :=
  candidates.find? isFile

/-- The settings of one file. -/
def load (read : String → Except String String) (path : String) :
    Except SettingsError Settings :=
  match read path with
  | .error reason => .error (.unreadable path reason)
  | .ok text => match parse? text with
    | none => .error (.malformed path)
    | some s => .ok s

/-- The settings to run with, and the path they were read from. -/
def resolve (isFile : String → Bool) (read : String → Except String String)
    (explicit : Option String) : Except SettingsError (Settings × Option String) :=
  match explicit.or (locate? isFile defaultLocations) with
  | none => .ok ({}, none)
  | some path => (load read path).map fun s => (s, some path)

/-- The settings, unless there are problems. -/
def checked (s : Settings) (problems : List Problem) : Except SettingsError Settings :=
  if problems.isEmpty then .ok s else .error (.invalid problems)

end Settings

end Patchbay
