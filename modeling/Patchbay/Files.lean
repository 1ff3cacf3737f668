/-
A tree of files below one directory, which is also the working directory. Paths are resolved
component by component; a component that is looked into has to be a directory. Above the working
directory there are directories only, of whose other contents nothing is known, so nothing else is
found in them.
-/
import Patchbay.Text.Utf8

namespace Patchbay

inductive FileError where
  | notFound
  | isDirectory
  | notDirectory
  | notText
  | nulInPath
  | nameTooLong
  | other (reason : String)
  deriving DecidableEq, Repr

def FileError.message : FileError → String
  | .notFound => "No such file or directory (os error 2)"
  | .isDirectory => "Is a directory (os error 21)"
  | .notDirectory => "Not a directory (os error 20)"
  | .notText => "stream did not contain valid UTF-8"
  | .nulInPath => "file name contained an unexpected NUL byte"
  | .nameTooLong => "File name too long (os error 36)"
  | .other reason => reason

inductive Node where
  | file (bytes : List UInt8)
  | directory
  /-- Something that is there but cannot be read. -/
  | sealed (reason : String)
  deriving DecidableEq, Repr

/-- The way to a node: the names from the working directory, behind one `..` for each directory
that is left upwards, or behind a `/` if the way begins at the root. -/
abbrev Place := List String

/-- Nodes by their places. -/
structure Files where
  entries : List (Place × Node) := []
  deriving DecidableEq, Repr

/-- A change to the tree. -/
inductive Edit where
  | write (path : String) (bytes : List UInt8)
  /-- What is at the path can no longer be read. -/
  | seal (path : String) (reason : String)
  | makeDirectory (path : String)
  | remove (path : String)
  deriving DecidableEq, Repr

namespace Files

/-- The longest name of one node, in bytes. -/
def nameLimit : Nat := 255

/-- The longest path, in bytes. -/
def pathLimit : Nat := 4095

def components (path : String) : List String :=
  (path.toList.splitOn '/').map String.ofList

/-- Where a path begins. -/
def origin (path : String) : Place := if path.startsWith "/" then ["/"] else []

/-- The working directory, a directory above it or the root. -/
def isAbove (place : Place) : Bool := place.all fun c => c == ".." || c == "/"

/-- The place one component on, when nothing is looked up. The root is above itself. -/
def advance (place : Place) (c : String) : Place :=
  if c = "" ∨ c = "." then place
  else if c ≠ ".." then place ++ [c]
  else if place = ["/"] then place
  else if isAbove place then place ++ [".."]
  else place.dropLast

def normalize (path : String) : Place := (components path).foldl advance (origin path)

/-- The path of a node, relative to the working directory. -/
def display (path : String) : String := String.intercalate "/" (normalize path)

def node? (fs : Files) (place : Place) : Option Node :=
  if isAbove place then some .directory else fs.entries.lookup place

/-- Follows components from a place that was already reached. -/
def follow (fs : Files) (place : Place) : List String → Except FileError Place
  | [] => .ok place
  | c :: rest => match fs.node? place with
    | none => .error .notFound
    | some (.file _) | some (.sealed _) => .error .notDirectory
    | some .directory =>
      if nameLimit < c.utf8ByteSize then .error .nameTooLong
      else fs.follow (advance place c) rest

/-- The node at a path. -/
def find (fs : Files) (path : String) : Except FileError Node :=
  if path.toList.contains '\x00' then .error .nulInPath
  else if path.isEmpty then .error .notFound
  else if pathLimit < path.utf8ByteSize then .error .nameTooLong
  else match fs.follow (origin path) (components path) with
    | .error e => .error e
    | .ok place => match fs.node? place with
      | none => .error .notFound
      | some node => .ok node

/-- The text of a file. -/
def read (fs : Files) (path : String) : Except FileError String :=
  match fs.find path with
  | .error e => .error e
  | .ok .directory => .error .isDirectory
  | .ok (.sealed reason) => .error (.other reason)
  | .ok (.file bytes) => match Text.Utf8.decode bytes with
    | .ok text => .ok text
    | .error _ => .error .notText

def isFile (fs : Files) (path : String) : Bool :=
  match fs.find path with
  | .ok (.file _) => true
  | _ => false

/-! ## Changes -/

def put (fs : Files) (place : Place) (node : Node) : Files :=
  ⟨(place, node) :: fs.entries.filter (·.1 != place)⟩

/-- Makes a directory unless there is something already. -/
def putDirectory (fs : Files) (place : Place) : Files :=
  match fs.node? place with
  | none => fs.put place .directory
  | some _ => fs

/-- Makes the directories that a way passes through, also those that it leaves again. -/
def putDirectories (fs : Files) (place : Place) : List String → Files
  | [] => fs
  | c :: rest =>
    let next := advance place c
    (fs.putDirectory next).putDirectories next rest

/-- Puts a node at a path, below directories that are made for it. -/
def putAt (fs : Files) (path : String) (node : Node) : Files :=
  (fs.putDirectories (origin path) (components path).dropLast).put (normalize path) node

def apply (fs : Files) : Edit → Files
  | .write path bytes => fs.putAt path (.file bytes)
  | .seal path reason => fs.putAt path (.sealed reason)
  | .makeDirectory path => fs.putDirectories (origin path) (components path)
  | .remove path =>
    let place := normalize path
    ⟨fs.entries.filter fun e => e.1.take place.length != place⟩

def applyAll (fs : Files) (edits : List Edit) : Files := edits.foldl apply fs

/-- The tree that edits make of an empty directory. -/
def ofEdits (edits : List Edit) : Files := applyAll {} edits

end Files

end Patchbay
