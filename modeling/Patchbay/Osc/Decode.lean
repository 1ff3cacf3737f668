/-
Reading datagrams. A cursor walks the bytes and knows how many were read before, because padding
is counted from the start of the datagram, inside a bundle's elements too.

A message is read whole or refused. Of a bundle only the number of readable elements is kept: the
first element that cannot be read ends it without an error.
-/
import Patchbay.Osc.Encode

namespace Patchbay.Osc

/-- What a datagram carries. -/
inductive Packet where
  | message (message : Message)
  | bundle (elements : Nat)
  deriving Repr, BEq

inductive DecodeError where
  | empty
  /-- The address neither starts with a slash nor names a bundle. -/
  | badAddress
  /-- A string without its closing zero. -/
  | unterminated
  /-- The datagram ends too early. -/
  | truncated
  | notText (bytes : List UInt8) (fault : Text.Utf8.Fault)
  | unmatchedBracket
  | unknownTag (tag : Char)
  | notAChar
  deriving Repr, DecidableEq

/-- The unread bytes of a datagram and the number of those read. -/
structure Cursor where
  offset : Nat
  rest : List UInt8
  deriving Repr, DecidableEq

namespace Cursor

def take (c : Cursor) (n : Nat) : Except DecodeError (List UInt8 × Cursor) :=
  if n ≤ c.rest.length then .ok (c.rest.take n, ⟨c.offset + n, c.rest.drop n⟩)
  else .error .truncated

/-- Skips what is left to the next multiple of four. -/
def align (c : Cursor) : Except DecodeError Cursor := do
  let (_, c) ← c.take (padding c.offset)
  return c

/-- A number in `count` bytes. -/
def number (c : Cursor) (count : Nat) : Except DecodeError (Nat × Cursor) := do
  let (bytes, c) ← c.take count
  return (ofBigEndian bytes, c)

/-- The text up to the next zero byte, and the padding after it. Bytes that are missing are found
before bytes that are no text. -/
def string (c : Cursor) : Except DecodeError (String × Cursor) := do
  let bytes := c.rest.takeWhile (· != 0)
  if bytes.length = c.rest.length then .error .unterminated
  let (_, c) ← c.take (bytes.length + 1)
  let c ← c.align
  match Text.Utf8.decode bytes with
  | .ok s => return (s, c)
  | .error fault => .error (.notText bytes fault)

def blob (c : Cursor) : Except DecodeError (List UInt8 × Cursor) := do
  let (size, c) ← c.number 4
  let (bytes, c) ← c.take size
  let c ← c.align
  return (bytes, c)

/-- The argument that `tag` announces; brackets are not tags of arguments. -/
def argument (c : Cursor) (tag : Char) : Except DecodeError (Argument × Cursor) :=
  match tag with
  | 'i' => do let (n, c) ← c.number 4; return (.int (UInt32.ofNat n).toInt32, c)
  | 'h' => do let (n, c) ← c.number 8; return (.long (UInt64.ofNat n).toInt64, c)
  | 'f' => do let (n, c) ← c.number 4; return (.float (UInt32.ofNat n), c)
  | 'd' => do let (n, c) ← c.number 8; return (.double (UInt64.ofNat n), c)
  | 's' => do let (s, c) ← c.string; return (.string s, c)
  | 'b' => do let (bytes, c) ← c.blob; return (.blob bytes, c)
  | 't' => do
    let (seconds, c) ← c.number 4
    let (fractional, c) ← c.number 4
    return (.time (UInt32.ofNat seconds) (UInt32.ofNat fractional), c)
  | 'c' => do
    let (n, c) ← c.number 4
    if h : n.isValidChar then return (.char (Char.ofNatAux n h), c) else .error .notAChar
  | 'm' => do
    match ← c.take 4 with
    | ([port, status, data1, data2], c) => return (.midi port status data1 data2, c)
    | _ => .error .truncated
  | 'r' => do
    match ← c.take 4 with
    | ([red, green, blue, alpha], c) => return (.color red green blue alpha, c)
    | _ => .error .truncated
  | 'T' => .ok (.bool true, c)
  | 'F' => .ok (.bool false, c)
  | 'N' => .ok (.nil, c)
  | 'I' => .ok (.infinitum, c)
  | tag => .error (.unknownTag tag)

/-- The arguments that the tags announce. An opening bracket sets the list so far aside, a closing
one puts the list since then into it as one array; so a bracket that is never closed leaves only
what stands after it. -/
def arguments (outer : List (List Argument)) (items : List Argument) (c : Cursor) :
    List Char → Except DecodeError (List Argument)
  | [] => .ok items
  | '[' :: tags => arguments (items :: outer) [] c tags
  | ']' :: tags => match outer with
    | [] => .error .unmatchedBracket
    | enclosing :: outer => arguments outer (enclosing ++ [.array items]) c tags
  | tag :: tags => do
    let (a, c) ← c.argument tag
    arguments outer (items ++ [a]) c tags

/-- One packet. `elements` counts the readable elements of a bundle from where they start. -/
def packet (elements : Cursor → Nat) (c : Cursor) : Except DecodeError Packet := do
  if c.rest.isEmpty then .error .empty
  let (address, c) ← c.string
  if address.toList.head? = some '/' then
    -- The first character of the tags is a comma by convention only.
    let (tags, c) ← c.string
    let arguments ← arguments [] [] c (tags.toList.drop 1)
    return .message ⟨address, arguments⟩
  else if address = "#bundle" then
    let (_, c) ← c.take 8
    return .bundle (elements c)
  else .error .badAddress

/-- The next element of a bundle and what follows it. -/
def element? (c : Cursor) : Option (Cursor × Cursor) :=
  match c.number 4 with
  | .error _ => none
  | .ok (size, c) => match c.take size with
    | .error _ => none
    | .ok (bytes, rest) => some (⟨c.offset, bytes⟩, rest)

/-- The number of elements before the first that cannot be read. An element takes four bytes at
least, so the number of bytes bounds both their count and how deep they nest. -/
def elements : Nat → Cursor → Nat
  | 0, _ => 0
  | fuel + 1, c => match c.element? with
    | none => 0
    | some (inner, rest) => match inner.packet (elements fuel) with
      | .error _ => 0
      | .ok _ => elements fuel rest + 1

end Cursor

def decode (datagram : List UInt8) : Except DecodeError Packet :=
  Cursor.packet (Cursor.elements datagram.length) ⟨0, datagram⟩

end Patchbay.Osc
