/-
Echoing messages: one listing line for each message that arrives on a port. A message to the exit
path whose first argument is one is not echoed; it asks the whole monitor to end.
-/
import Patchbay.Listener

namespace Patchbay

namespace Echo

def exitPath : String := "/osclisten/exit"

/-- The argument is one: the number, true, or a text that is the digit between blanks. -/
def isOne : Osc.Argument → Bool
  | .int v => v == 1
  | .long v => v == 1
  | .float bits => bits == 0x3F800000
  | .double bits => bits == 0x3FF0000000000000
  | .bool b => b
  | .string s => Text.trim s.toList == ['1']
  | _ => false

def isExitCommand (m : Osc.Message) : Bool :=
  m.address == exitPath && match m.arguments with
    | [] => false
    | a :: _ => isOne a

/-- What handling one message comes to. -/
structure Outcome where
  /-- With `.stop` the stop signal is triggered and the loop ends. -/
  flow : Flow
  written : String
  journal : Journal

/-- Handles a message on `port`. `fault` says why nothing can be written, if so. -/
def echo (port : UInt16) (fault : Option String) (m : Osc.Message) : Outcome :=
  if isExitCommand m then ⟨.stop, "", [.event (.exitCommandReceived port)]⟩
  else match fault with
    | none => ⟨.goOn, m.listing port ++ "\n", []⟩
    | some reason => ⟨.goOn, "", [.event (.writeFailed port reason)]⟩

/-- Echoes to a text that grows, as the handler of a receive loop. -/
def handler (port : UInt16) (fault : Option String) : Handler String := fun out m =>
  let outcome := echo port fault m
  (outcome.flow, outcome.journal, out ++ outcome.written)

end Echo

/-- The configured ports and the extra ones, each non-zero port once, at its first place. Port zero
asks for any free port and may repeat. -/
def mergePorts (configured extra : List UInt16) : List UInt16 :=
  (configured ++ extra).foldl (fun ports p =>
    if p = 0 ∨ ¬ p ∈ ports then ports ++ [p] else ports) []

end Patchbay
