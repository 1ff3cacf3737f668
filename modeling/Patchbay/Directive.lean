/-
Directives of the event filter. A directive limits how detailed the shown events may be: of all
topics, of the topics that begin with a certain text, or of those of their events that have a
certain field. Of the directives that concern an event the most specific one decides; an event that
none concerns is not shown.

As text a directive is `level`, `topic`, `topic=level`, or either of the last two with brackets
behind the topic, which may then be missing: `[{field}]` asks for a field, `[span]` for a span
of work.
-/
import Patchbay.Event
import Patchbay.Text.Alphanumeric
import Patchbay.Text.Number

namespace Patchbay

/-- The most detailed level that is shown, given by its name in any case or by its rank; `some none`
shows nothing, `none` is no such text. -/
def limitNamed? (text : List Char) : Option (Option Level) :=
  match Text.countOf? text with
  | some 0 => some none
  | some rank => (Level.all.find? fun l => l.rank == rank).map some
  | none =>
    let name := text.map Char.toUpper
    if name = "OFF".toList then some none
    else (Level.all.find? fun l => l.name.toList == name).map some

/-- Which events of its topics a directive concerns. -/
inductive Concern where
  | all
  | withField (name : List Char)
  /-- None: it speaks of spans of work or of a field's value, which events are not judged by. -/
  | nothing
  deriving DecidableEq, Repr

/-- `a` is no more specific than `b`. -/
def Concern.yields : Concern → Concern → Bool
  | .withField a, .withField b => decide (String.ofList a ≤ String.ofList b)
  | .withField _, _ => false
  | _, _ => true

structure Directive where
  /-- What the names of the topics begin with. -/
  topic : List Char
  concern : Concern
  limit : Option Level
  deriving DecidableEq, Repr

namespace Directive

/-! ## Effect -/

def concerns (d : Directive) (e : Event) : Bool :=
  d.topic.isPrefixOf e.topic.name.toList &&
    match d.concern with
    | .all => true
    | .withField name => e.fieldNames.any fun f => f.toList == name
    | .nothing => false

/-- A longer topic is more specific than a shorter one; on equal topics a field counts. -/
def yields (a b : Directive) : Bool :=
  decide (a.topic.length < b.topic.length) ||
    (a.topic.length == b.topic.length && a.concern.yields b.concern)

/-- The more specific one of two directives; of equals the second. -/
def prevailing (a b : Directive) : Directive := if a.yields b then b else a

/-- The most specific of the directives that concern `e`; of equals the last. -/
def deciding? (ds : List Directive) (e : Event) : Option Directive :=
  match ds.filter (·.concerns e) with
  | [] => none
  | d :: rest => some (rest.foldl prevailing d)

/-- The most detailed level that is shown of events like `e`. -/
def limitFor (ds : List Directive) (e : Event) : Option Level :=
  (deciding? ds e).bind (·.limit)

/-! ## Reading -/

/-- The parts of a directive's text; the level is what stands behind the equals sign. -/
structure Parts where
  topic : List Char
  concern : Concern := .all
  level : Option (List Char) := none

/-- What stands in brackets, from behind the opening one, and the rest behind the closing one. -/
def concern? (text : List Char) : Option (Concern × List Char) :=
  let span := text.takeWhile fun c => c != ']' && c != '\x7b'
  match text.drop span.length with
  | ']' :: rest => some (.nothing, rest)
  | '\x7b' :: rest => match Text.cut? '\x7d' rest with
    | some (c :: cs, ']' :: rest) =>
      let named := span.isEmpty && !(c :: cs).contains '='
      some (if named then .withField (c :: cs) else .nothing, rest)
    | _ => none
  | _ => none

/-- The parts of a text whose brackets have just been opened. -/
def bracketed? (topic text : List Char) : Option Parts :=
  match concern? text with
  | none => none
  | some (concern, '=' :: level) => some ⟨topic, concern, some level⟩
  | some (concern, rest) => if rest.all Text.isBlank then some ⟨topic, concern, none⟩ else none

/-- A topic or a level begins with one of these. -/
def canStart (c : Char) : Bool := Text.isAlphanumeric c || [':', '-', '_'].contains c

def parts? : List Char → Option Parts
  | [] => none
  | '[' :: rest => bracketed? [] rest
  | c :: cs =>
    if canStart c then
      let topic := (c :: cs).takeWhile fun c => c != '=' && c != '['
      match (c :: cs).drop topic.length with
      | '=' :: level => some { topic, level := some level }
      | '[' :: rest => bracketed? topic rest
      | _ => some { topic }
    else none

/-- A text without brackets and equals sign may name a level, which then limits all topics. An
omitted level shows everything. -/
def ofParts? (p : Parts) : Option Directive :=
  match p.level with
  | some [] => some ⟨p.topic, p.concern, some .trace⟩
  | some level => (limitNamed? level).map fun limit => ⟨p.topic, p.concern, limit⟩
  | none => match p.concern, limitNamed? p.topic with
    | .all, some limit => some ⟨[], .all, limit⟩
    | _, _ => some ⟨p.topic, p.concern, some .trace⟩

/-- Reads one directive. Blanks in front spoil it: no level can be read then, and without one it
concerns nothing. -/
def ofText? (text : List Char) : Option Directive :=
  match text with
  | [] => none
  | c :: _ =>
    let parts := parts? (text.dropWhile Text.isBlank)
    if Text.isBlank c then
      (parts.filter (·.level.isNone)).map fun p => ⟨p.topic, .nothing, some .trace⟩
    else parts.bind ofParts?

/-- The directives between the commas of a text; what is none is left out. -/
def listOf (text : List Char) : List Directive := (text.splitOn ',').filterMap ofText?

end Directive

end Patchbay
