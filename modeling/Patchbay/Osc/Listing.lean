/-
Arguments and decoding errors as text. A listing shows a message to a person on one line; a record
is the exhaustive form of the log, in which every value names its type.
-/
import Patchbay.Decimal.Ieee
import Patchbay.Osc.Decode
import Patchbay.Text.Quoted

namespace Patchbay.Osc

/-- Texts between square brackets, with commas. -/
def bracketed (items : List String) : String := "[" ++ String.intercalate ", " items ++ "]"

def bytesText (bytes : List UInt8) : String := bracketed (bytes.map fun b => toString b.toNat)

def timeText (seconds fractional : UInt32) : String :=
  "Time(OscTime \x7b seconds: " ++ toString seconds.toNat ++ ", fractional: " ++
    toString fractional.toNat ++ " \x7d)"

def midiText (port status data1 data2 : UInt8) : String :=
  "Midi(OscMidiMessage \x7b port: " ++ toString port.toNat ++ ", status: " ++
    toString status.toNat ++ ", data1: " ++ toString data1.toNat ++ ", data2: " ++
    toString data2.toNat ++ " \x7d)"

def colorText (red green blue alpha : UInt8) : String :=
  "Color(OscColor \x7b red: " ++ toString red.toNat ++ ", green: " ++ toString green.toNat ++
    ", blue: " ++ toString blue.toNat ++ ", alpha: " ++ toString alpha.toNat ++ " \x7d)"

/-! ## Listings -/

mutual

/-- An argument as a listing shows it. Texts and characters stand in plain single quotes. -/
def Argument.listing : Argument → String
  | .int v => toString v.toInt
  | .long v => toString v.toInt
  | .float bits => Decimal.singleText bits
  | .double bits => Decimal.doubleText bits
  | .string s => "'" ++ s ++ "'"
  | .char c => "'" ++ c.toString ++ "'"
  | .blob bytes => "b" ++ bytesText bytes
  | .time seconds fractional => timeText seconds fractional
  | .midi port status data1 data2 => midiText port status data1 data2
  | .color red green blue alpha => colorText red green blue alpha
  | .bool true => "True"
  | .bool false => "False"
  | .nil => "None"
  | .infinitum => "inf"
  | .array items => bracketed (listings items)

def listings : List Argument → List String
  | [] => []
  | a :: rest => a.listing :: listings rest

end

/-- One line for a message that arrived on `port`, without the line break. -/
def Message.listing (m : Message) (port : UInt16) : String :=
  toString port.toNat ++ ": " ++ m.address ++ " " ++ bracketed (listings m.arguments)

/-! ## Records -/

mutual

def Argument.record : Argument → String
  | .int v => "Int(" ++ toString v.toInt ++ ")"
  | .long v => "Long(" ++ toString v.toInt ++ ")"
  | .float bits => "Float(" ++ Decimal.singleText bits ++ ")"
  | .double bits => "Double(" ++ Decimal.doubleText bits ++ ")"
  | .string s => "String(" ++ Text.quoted s ++ ")"
  | .char c => "Char(" ++ Text.quotedChar c ++ ")"
  | .blob bytes => "Blob(" ++ bytesText bytes ++ ")"
  | .time seconds fractional => timeText seconds fractional
  | .midi port status data1 data2 => midiText port status data1 data2
  | .color red green blue alpha => colorText red green blue alpha
  | .bool true => "Bool(true)"
  | .bool false => "Bool(false)"
  | .nil => "Nil"
  | .infinitum => "Inf"
  | .array items => "Array(OscArray \x7b content: " ++ bracketed (records items) ++ " \x7d)"

def records : List Argument → List String
  | [] => []
  | a :: rest => a.record :: records rest

end

def argumentsRecord (arguments : List Argument) : String := bracketed (records arguments)

/-! ## Errors -/

def utf8FaultText (bytes : List UInt8) (fault : Text.Utf8.Fault) : String :=
  let length := match fault.badLength with
    | some n => "Some(" ++ toString n ++ ")"
    | none => "None"
  "FromUtf8Error \x7b bytes: " ++ bytesText bytes ++ ", error: Utf8Error \x7b valid_up_to: " ++
    toString fault.validUpTo ++ ", error_len: " ++ length ++ " \x7d \x7d"

def DecodeError.message : DecodeError → String
  | .empty => "BadPacket(\"Empty packet.\")"
  | .badAddress => "BadPacket(\"Invalid message address or bundle tag\")"
  | .unterminated => "ReadError(Tag)"
  | .truncated => "ReadError(Eof)"
  | .notText bytes fault => "StringError(" ++ utf8FaultText bytes fault ++ ")"
  | .unmatchedBracket => "BadMessage(\"Encountered ] outside array\")"
  | .unknownTag tag =>
    "BadArg(" ++ Text.quoted ("Type tag \"" ++ tag.toString ++ "\" is not implemented!") ++ ")"
  | .notAChar => "BadArg(\"Argument is not a char!\")"

end Patchbay.Osc
