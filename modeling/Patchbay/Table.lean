/-
Forwarding tables: rules in the order in which they were written and the registry that numbers
their targets. `render` writes a table in the form of a rule file; two tables are the same when
their rules agree one by one, whatever numbers their targets have.
-/
import Patchbay.Path
import Patchbay.Rule

namespace Patchbay

structure Table where
  rules : List Rule := []
  registry : Registry := {}
  deriving DecidableEq, Repr

namespace Table

def target? (t : Table) (id : TargetId) : Option Target := t.registry.get? id

/-- The rules with the given head, in order. -/
def rulesFor (t : Table) (head : String) : List Rule := t.rules.filter (·.head == head)

/-! ## Rendering -/

/-- One rule as a record. Numbers without a target are left out. -/
def renderRule (t : Table) (rule : Rule) : String :=
  "/" ++ rule.head ++ " " ++ indicator rule.truncate ++
    String.join ((rule.targets.filterMap t.target?).map fun target => " " ++ target.text)

def render (t : Table) : String :=
  String.join (t.rules.map fun rule => t.renderRule rule ++ "\n")

/-! ## Sameness -/

/-- What a rule does: its head, its flag, and its targets without their numbers. -/
def effect (t : Table) (rule : Rule) : String × Bool × List (Option Target) :=
  (rule.head, rule.truncate, rule.targets.map t.target?)

def effects (t : Table) : List (String × Bool × List (Option Target)) := t.rules.map t.effect

/-- The rules of both tables do the same, one by one. -/
def same (t u : Table) : Bool := t.effects == u.effects

/-! ## Compiling -/

/-- Adds what one line asks for. The targets of a faulty record are registered nevertheless. -/
def addReading (t : Table) (origin : Origin) : Record.Reading → Table × Option RecordError
  | .blank => (t, none)
  | .rule head truncate targets =>
    let (ids, registry) := t.registry.registerAll targets
    (⟨t.rules ++ [⟨head, truncate, ids, origin⟩], registry⟩, none)
  | .faulty fault targets => (⟨t.rules, (t.registry.registerAll targets).2⟩, some fault)

end Table

/-- Why rule files give no table. -/
inductive LoadError where
  | unreadable (path reason : String)
  | badRecord (origin : Origin) (content : String) (fault : RecordError)
  deriving DecidableEq, Repr

namespace LoadError

def location : LoadError → Option Origin
  | .unreadable _ _ => none
  | .badRecord origin _ _ => some origin

def message : LoadError → String
  | .unreadable path reason => s!"rule file {path}: {reason}"
  | .badRecord ⟨file, line⟩ content fault =>
    let place := file ++ ":" ++ toString line
    match fault with
    | .tooFewFields =>
      s!"{place}: malformed rule `{content}`: expected a path prefix, `+` or `-`, and at least one target"
    | .emptyHead => s!"{place}: malformed rule `{content}`: empty path prefix"
    | .severalSegments =>
      s!"{place}: malformed rule `{content}`: path prefix must be a single segment"
    | .badIndicator token =>
      s!"{place}: truncation indicator `{token}` is not `+` or `-` in `{content}`"
    | .badTarget token reason =>
      s!"{place}: cannot resolve target `{token}`: " ++ reason.message

end LoadError

namespace Table

/-- Adds the lines from number `n` on, up to the first faulty one. -/
def addLines (t : Table) (file : String) (n : Nat) : List (List Char) → Table × Option LoadError
  | [] => (t, none)
  | line :: rest => match t.addReading ⟨file, n⟩ (Record.read line) with
    | (t, none) => t.addLines file (n + 1) rest
    | (t, some fault) =>
      (t, some (.badRecord ⟨file, n⟩ (String.ofList (Text.trim (Record.content line))) fault))

/-- The lines of a text. A line may keep a carriage return at its end, which is blank. -/
def lines (text : String) : List (List Char) := text.toList.splitOn '\n'

/-- Adds the records of one source. Those before a faulty one stay. -/
def addSource (t : Table) (file text : String) : Table × Option LoadError :=
  t.addLines file 1 (lines text)

/-- Adds sources in order, up to the first that fails. -/
def addSources (t : Table) : List (String × String) → Except LoadError Table
  | [] => .ok t
  | (file, text) :: rest => match t.addSource file text with
    | (t, none) => t.addSources rest
    | (_, some e) => .error e

/-- The table of a single source. -/
def ofText (file text : String) : Except LoadError Table := addSources {} [(file, text)]

/-- The texts of all files, or the first that cannot be read. -/
def readAll (read : String → Except String String) :
    List String → Except LoadError (List (String × String))
  | [] => .ok []
  | path :: rest => match read path with
    | .error reason => .error (.unreadable path reason)
    | .ok text => do
      let sources ← readAll read rest
      return (path, text) :: sources

/-- The table of the rule files. All of them are read before any is compiled. -/
def load (read : String → Except String String) (paths : List String) :
    Except LoadError Table := do
  let sources ← readAll read paths
  addSources {} sources

end Table

end Patchbay
