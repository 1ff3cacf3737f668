/-
The plan of a message: every send it causes, rule by rule in table order and target by target
within a rule. A send knows the place of its rule in the table, so rules that look alike stay apart.
-/
import Patchbay.Table

namespace Patchbay

/-- One planned send. -/
structure Forward where
  /-- The place of the rule in its table. -/
  position : Nat
  rule : Rule
  target : Target
  path : String
  deriving Repr, DecidableEq

/-- The path of a message to `address` when a rule forwards it to `target`. A replacement wins over
truncation. -/
def outboundPath (truncate : Bool) (target : Target) (address : String) : String :=
  match target.replacement with
  | some path => path
  | none => if truncate then Path.dropHead address else address

/-- The sends of one rule. Numbers without a target are passed over. -/
def Table.forwards (t : Table) (address : String) (position : Nat) (rule : Rule) : List Forward :=
  (rule.targets.filterMap t.target?).map fun target =>
    ⟨position, rule, target, outboundPath rule.truncate target address⟩

/-- All sends of a message to `address`, in order. -/
def Table.plan (t : Table) (address : String) : List Forward :=
  match Path.head? address with
  | none => []
  | some head =>
    (t.rules.zipIdx.filter fun r => r.1.head == head).flatMap fun r => t.forwards address r.2 r.1

/-- The number of rules behind a plan: the number of its longest runs of sends of one rule. -/
def matchedRules : List Forward → Nat
  | [] => 0
  | [_] => 1
  | a :: b :: rest =>
    if a.position = b.position then matchedRules (b :: rest) else matchedRules (b :: rest) + 1

end Patchbay
