/-
The registry numbers the targets of one table. Registering a target that is already known gives its
number again, so two rules that write the same target share it.
-/
import Patchbay.Target

namespace Patchbay

/-- The number of a target within one registry. -/
structure TargetId where
  index : Nat
  deriving DecidableEq, Repr

def TargetId.name (id : TargetId) : String := "target-" ++ toString id.index

/-- The distinct targets in the order of their first registration. -/
structure Registry where
  targets : List Target := []
  deriving DecidableEq, Repr

namespace Registry

def register (r : Registry) (t : Target) : TargetId × Registry :=
  match r.targets.idxOf? t with
  | some i => (⟨i⟩, r)
  | none => (⟨r.targets.length⟩, ⟨r.targets ++ [t]⟩)

/-- Registers targets from left to right. -/
def registerAll (r : Registry) : List Target → List TargetId × Registry
  | [] => ([], r)
  | t :: rest =>
    let (id, r) := r.register t
    let (ids, r) := r.registerAll rest
    (id :: ids, r)

def get? (r : Registry) (id : TargetId) : Option Target := r.targets[id.index]?

def size (r : Registry) : Nat := r.targets.length

/-- The distinct endpoints of the targets in the order of their first registration. -/
def endpoints (r : Registry) : List Endpoint := (r.targets.map Target.endpoint).eraseDups

end Registry

end Patchbay
