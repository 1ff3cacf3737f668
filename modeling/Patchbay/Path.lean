/-
OSC paths as rules see them. A path that starts with a slash is a list of segments; its head is the
first of them, if that is not empty. Dropping the head leaves the path of what follows the next
slash, and the root path when nothing follows.
-/
import Patchbay.Text.Blank

namespace Patchbay.Path

/-- The first segment. A relative path and one whose first segment is empty have none. -/
def head? (path : String) : Option String :=
  match path.toList with
  | '/' :: rest =>
    let segment := rest.takeWhile (· != '/')
    if segment.isEmpty then none else some (String.ofList segment)
  | _ => none

/-- The path without its first segment. -/
def dropHead (path : String) : String :=
  let rest := match path.toList with
    | '/' :: rest => rest
    | rest => rest
  match Text.cut? '/' rest with
  | some (_, tail) => String.ofList ('/' :: tail)
  | none => "/"

end Patchbay.Path
