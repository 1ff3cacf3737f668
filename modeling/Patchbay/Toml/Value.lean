/-
TOML values, and how the statements of a document build its tables.

A table remembers how it came to be: by a header or an inline table, in passing by the header of a
table below it, or by a dotted key. A header may complete a table that was only made in passing; a
dotted key may not reach into a table that has a header.
-/
namespace Patchbay.Toml

/-- Numbers with a fraction and dates are kept as they were written. -/
inductive Value where
  | string (text : String)
  | integer (value : Int)
  | float (text : String)
  | boolean (value : Bool)
  | datetime (text : String)
  | array (items : List Value)
  | table (entries : List (String × Value))
  deriving Repr

/-- How a table came to be. -/
inductive Making where
  | header
  | passing
  | dotted
  deriving DecidableEq, Repr

/-- What a key stands for while the document is read. -/
inductive Item where
  | value (value : Value)
  | table (making : Making) (entries : List (String × Item))
  /-- An array of tables, each made by a header of its own. -/
  | tables (elements : List (List (String × Item)))
  deriving Repr

abbrev Entries := List (String × Item)

mutual

def Item.toValue : Item → Value
  | .value v => v
  | .table _ entries => .table (entryValues entries)
  | .tables elements => .array (elementValues elements)

def entryValues : List (String × Item) → List (String × Value)
  | [] => []
  | (key, item) :: rest => (key, item.toValue) :: entryValues rest

def elementValues : List (List (String × Item)) → List Value
  | [] => []
  | entries :: rest => .table (entryValues entries) :: elementValues rest

end

/-- Puts `item` in the place of the entry of `key`. -/
def replaceEntry (entries : Entries) (key : String) (item : Item) : Entries :=
  entries.map fun e => if e.1 == key then (key, item) else e

/-- Changes the table that `path` leads to, making the tables on the way that are not there. With
`dotted` the path is the front of a dotted key. -/
def change (dotted : Bool) (f : Making → Entries → Option Entries) :
    List String → Making → Entries → Option Entries
  | [], making, entries => f making entries
  | key :: path, _, entries => match entries.lookup key with
    | none => do
      let making := if dotted then Making.dotted else Making.passing
      let below ← change dotted f path making []
      return entries ++ [(key, .table making below)]
    | some (.value _) => none
    | some (.tables elements) => do
      let below ← change dotted f path .header (← elements.getLast?)
      return replaceEntry entries key (.tables (elements.dropLast ++ [below]))
    | some (.table making below) =>
      if dotted && making == .header then none
      else do
        let below ← change dotted f path making below
        return replaceEntry entries key (.table making below)

/-- Adds a key with its value to the table at `path`. A dotted key adds to dotted tables alone. -/
def addPair (path : List String) (key : String) (v : Value) (entries : Entries) : Option Entries :=
  change true (fun making entries =>
    if (making == .dotted) == path.isEmpty then none
    else if (entries.lookup key).isSome then none
    else some (entries ++ [(key, .value v)])) path .header entries

/-- The table of the pairs between braces. -/
def inlineTable (pairs : List (List String × String × Value)) : Option Value := do
  let entries ← pairs.foldlM (fun entries p => addPair p.1 p.2.1 p.2.2 entries) []
  return .table (entryValues entries)

/-- A document that is being read: the tables that are complete, and the one that the last header
opened, with its path. -/
structure Document where
  root : Entries := []
  path : List String := []
  current : Entries := []
  inArray : Bool := false

namespace Document

/-- Puts the open table in its place. -/
def close (d : Document) : Option Entries :=
  match d.path.getLast? with
  | none => some d.current
  | some key =>
    change false (fun _ entries => match entries.lookup key with
      | none =>
        some (entries ++
          [(key, if d.inArray then .tables [d.current] else .table .header d.current)])
      | some (.tables elements) =>
        if d.inArray then some (replaceEntry entries key (.tables (elements ++ [d.current])))
        else none
      | some _ => none) d.path.dropLast .header d.root

/-- Opens the table of a header. One that was made in passing is taken up again. -/
def openTable (d : Document) (path : List String) : Option Document := do
  let root ← d.close
  let key ← path.getLast?
  let (taken, root) ← takeUp root key
  return { root := root, path := path, current := taken, inArray := false }
where
  takeUp (root : Entries) (key : String) : Option (Entries × Entries) := do
    let taken ← find root path.dropLast
    match taken with
    | none => return ([], root)
    | some (.table .passing below) =>
      let root ← change false (fun _ entries => some (entries.filter (·.1 != key)))
        path.dropLast .header root
      return (below, root)
    | some _ => none
  /-- The entry of the last key; the outer `none` if a key on the way is no table. -/
  find (entries : Entries) : List String → Option (Option Item)
    | [] => some (path.getLast?.bind (entries.lookup ·))
    | key :: rest => match entries.lookup key with
      | none => some none
      | some (.value _) => none
      | some (.table _ below) => find below rest
      | some (.tables elements) => match elements.getLast? with
        | none => none
        | some below => find below rest

/-- Opens the next table of an array of tables. -/
def openElement (d : Document) (path : List String) : Option Document := do
  let root ← d.close
  let key ← path.getLast?
  -- The place is checked at once: nothing else may stand there.
  let _ ← change false (fun _ entries => match entries.lookup key with
    | none => some entries
    | some (.tables _) => some entries
    | some _ => none) path.dropLast .header root
  return { root := root, path := path, current := [], inArray := true }

def addPair (d : Document) (path : List String) (key : String) (v : Value) : Option Document := do
  let current ← Toml.addPair path key v d.current
  return { d with current := current }

end Document

end Patchbay.Toml
