/-
Which events are shown. The general level is itself a text of directives, in the simplest case a
level's name. A scope that is switched on adds a directive of its own, up to debug, which takes the
place of the general level for the events of that scope.
-/
import Patchbay.Directive

namespace Patchbay

/-- What is shown: the general level and the scopes that are switched on. -/
structure Verbosity where
  level : String
  scopes : List Scope
  deriving DecidableEq, Repr

/-- The directive of one scope as text. -/
def Scope.directiveText (s : Scope) : String := s.topic ++ "=debug"

def Scope.directive (s : Scope) : Directive := ⟨s.topic.toList, .all, some .debug⟩

namespace Verbosity

/-- The scopes that are on, in their fixed order. -/
def enabled (v : Verbosity) : List Scope := Scope.all.filter (v.scopes.contains ·)

/-- The filter as text. -/
def filterText (v : Verbosity) : String :=
  String.intercalate "," (v.level :: v.enabled.map Scope.directiveText)

/-- The directives that the filter's text holds. -/
def given (v : Verbosity) : List Directive :=
  Directive.listOf v.level.toList ++ v.enabled.map Scope.directive

/-- Without any directive errors show. -/
def directives (v : Verbosity) : List Directive :=
  match v.given with
  | [] => [⟨[], .all, some .error⟩]
  | ds => ds

def shows (v : Verbosity) (e : Event) : Bool :=
  match Directive.limitFor v.directives e with
  | none => false
  | some limit => decide (e.level.rank ≤ limit.rank)

/-! ## Laws -/

/-- The text of a scope's directive reads back. -/
theorem ofText?_directiveText (s : Scope) :
    Directive.ofText? s.directiveText.toList = some s.directive := by
  cases s <;> decide +kernel

end Verbosity

end Patchbay
