/-
Messages as datagrams: the address, the type tags after a comma, then the data of the arguments in
order. An array adds brackets to the tags and no data of its own, so its elements' data stand with
the others'.
-/
import Patchbay.Osc.Message
import Patchbay.Osc.Wire
import Patchbay.Text.Utf8

namespace Patchbay.Osc

/-- `bytes` and one to four zeros, up to a multiple of four. -/
def terminated (bytes : List UInt8) : List UInt8 :=
  bytes ++ 0 :: List.replicate (padding (bytes.length + 1)) 0

def stringBytes (s : String) : List UInt8 := terminated (Text.Utf8.encode s)

def blobBytes (bytes : List UInt8) : List UInt8 :=
  bigEndian 4 bytes.length ++ bytes ++ List.replicate (padding bytes.length) 0

mutual

/-- The type tags of one argument. -/
def Argument.tags : Argument → List Char
  | .int _ => ['i']
  | .long _ => ['h']
  | .float _ => ['f']
  | .double _ => ['d']
  | .string _ => ['s']
  | .char _ => ['c']
  | .blob _ => ['b']
  | .time _ _ => ['t']
  | .midi _ _ _ _ => ['m']
  | .color _ _ _ _ => ['r']
  | .bool true => ['T']
  | .bool false => ['F']
  | .nil => ['N']
  | .infinitum => ['I']
  | .array items => '[' :: tagsOf items ++ [']']

/-- The type tags of arguments in order. -/
def tagsOf : List Argument → List Char
  | [] => []
  | a :: rest => a.tags ++ tagsOf rest

end

mutual

/-- The data of one argument. -/
def Argument.data : Argument → List UInt8
  | .int v => bigEndian 4 v.toUInt32.toNat
  | .long v => bigEndian 8 v.toUInt64.toNat
  | .float bits => bigEndian 4 bits.toNat
  | .double bits => bigEndian 8 bits.toNat
  | .string s => stringBytes s
  | .char c => bigEndian 4 c.toNat
  | .blob bytes => blobBytes bytes
  | .time seconds fractional => bigEndian 4 seconds.toNat ++ bigEndian 4 fractional.toNat
  | .midi port status data1 data2 => [port, status, data1, data2]
  | .color red green blue alpha => [red, green, blue, alpha]
  | .bool _ => []
  | .nil => []
  | .infinitum => []
  | .array items => dataOf items

/-- The data of arguments in order. -/
def dataOf : List Argument → List UInt8
  | [] => []
  | a :: rest => a.data ++ dataOf rest

end

/-- The datagram that carries `arguments` to `path`. -/
def encode (path : String) (arguments : List Argument) : List UInt8 :=
  stringBytes path ++ stringBytes (String.ofList (',' :: tagsOf arguments)) ++ dataOf arguments

/-- The datagram of `m` with `path` in the place of its address. -/
def Message.encodeAs (m : Message) (path : String) : List UInt8 := encode path m.arguments

end Patchbay.Osc
