/-
OSC messages: an address and typed arguments. Floating-point arguments are kept as their bit
patterns, so that two arguments are equal exactly when the same bits travel.
-/
namespace Patchbay.Osc

inductive Argument where
  | int (value : Int32)
  | long (value : Int64)
  | float (bits : UInt32)
  | double (bits : UInt64)
  | string (text : String)
  | char (value : Char)
  | blob (bytes : List UInt8)
  | time (seconds fractional : UInt32)
  | midi (port status data1 data2 : UInt8)
  | color (red green blue alpha : UInt8)
  | bool (value : Bool)
  | nil
  | infinitum
  | array (items : List Argument)
  deriving Repr, BEq

structure Message where
  address : String
  arguments : List Argument
  deriving Repr, BEq

end Patchbay.Osc
