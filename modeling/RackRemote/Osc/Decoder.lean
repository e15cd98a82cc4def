import RackRemote.Osc.Packet
import RackRemote.Osc.Bytes
import RackRemote.Text.Quoted
/-!
# Reading a packet

A `Cursor` is the unread part of a packet together with its distance from the packet's first byte:
padding is counted from there, also inside the elements of a bundle. Bytes after the packet are
left unread. An element of a bundle that cannot be read ends the bundle and is no fault.
-/

namespace RackRemote.Osc

/-- Why bytes are no packet. -/
inductive DecodeFault where
  | empty
  | endOfInput
  | invalidText
  | unknownStart
  | strayBracket
  | unknownTag (tag : Char)
  | invalidChar
deriving DecidableEq, Repr

/-- The report of an undecodable packet. -/
def DecodeFault.report : DecodeFault → String
  | .empty => "BadPacket(\"Empty packet.\")"
  | .endOfInput => "ReadError(Eof)"
  | .invalidText => "StringError"
  | .unknownStart => "BadPacket(\"Invalid message address or bundle tag\")"
  | .strayBracket => "BadMessage(\"Encountered ] outside array\")"
  | .unknownTag tag =>
    let reason := "Type tag \"" ++ String.singleton tag ++ "\" is not implemented!"
    "BadArg(" ++ Text.quoted reason ++ ")"
  | .invalidChar => "BadArg(\"Argument is not a char!\")"

/-- The bytes still to be read, and how many of the packet stand before them. -/
structure Cursor where
  offset : Nat
  rest : List UInt8

namespace Cursor

/-- Reads exactly `n` bytes. -/
def take (n : Nat) (c : Cursor) : Except DecodeFault (List UInt8 × Cursor) :=
  let bytes := c.rest.take n
  if bytes.length = n then .ok (bytes, ⟨c.offset + n, c.rest.drop n⟩) else .error .endOfInput

/-- Reads a big-endian number of `n` bytes. -/
def number (n : Nat) (c : Cursor) : Except DecodeFault (Nat × Cursor) := do
  let (bytes, c) ← c.take n
  return (ofBigEndian bytes, c)

/-- Skips the zero bytes that end a text or a blob, without looking at them. -/
def skipPadding (c : Cursor) : Except DecodeFault Cursor := do
  let (_, c) ← c.take (padding c.offset)
  return c

/-- Reads a text up to the first zero byte or the end, and its padding. -/
def text (c : Cursor) : Except DecodeFault (String × Cursor) := do
  let bytes := c.rest.takeWhile (· != 0)
  let c ← skipPadding ⟨c.offset + bytes.length, c.rest.drop bytes.length⟩
  match ofUtf8? bytes with
  | some s => return (s, c)
  | none => throw .invalidText

/-- Reads the data of an argument announced by one tag. -/
def arg (tag : Char) (c : Cursor) : Except DecodeFault (Arg × Cursor) := do
  match tag with
  | 'i' => let (n, c) ← c.number 4; return (.int n.toUInt32.toInt32, c)
  | 'h' => let (n, c) ← c.number 8; return (.long n.toUInt64.toInt64, c)
  | 'f' => let (n, c) ← c.number 4; return (.float ⟨n.toUInt32⟩, c)
  | 'd' => let (n, c) ← c.number 8; return (.double ⟨n.toUInt64⟩, c)
  | 's' => let (s, c) ← c.text; return (.string s, c)
  | 'b' =>
    let (size, c) ← c.number 4
    let (bytes, c) ← c.take size
    return (.blob bytes, ← c.skipPadding)
  | 't' =>
    let (seconds, c) ← c.number 4
    let (fraction, c) ← c.number 4
    return (.time ⟨seconds.toUInt32, fraction.toUInt32⟩, c)
  | 'c' =>
    let (n, c) ← c.number 4
    if n.isValidChar then return (.char (Char.ofNat n), c) else throw .invalidChar
  | 'r' =>
    match ← c.take 4 with
    | ([r, g, b, a], c) => return (.color r g b a, c)
    | _ => throw .endOfInput
  | 'm' =>
    match ← c.take 4 with
    | ([port, status, data1, data2], c) => return (.midi port status data1 data2, c)
    | _ => throw .endOfInput
  | 'T' => return (.bool true, c)
  | 'F' => return (.bool false, c)
  | 'N' => return (.nil, c)
  | 'I' => return (.infinitum, c)
  | tag => throw (.unknownTag tag)

/-- Reads the arguments that the tags announce. `done` are those of the innermost open list, latest
first, and `outer` those of the lists around it. What is still open at the end is the result. -/
def args : List Char → List Arg → List (List Arg) → Cursor → Except DecodeFault (List Arg × Cursor)
  | [], done, _, c => .ok (done.reverse, c)
  | tag :: tags, done, outer, c =>
    if tag = '[' then args tags [] (done :: outer) c
    else if tag = ']' then
      match outer with
      | [] => .error .strayBracket
      | parent :: outer => args tags (.array done.reverse :: parent) outer c
    else do
      let (a, c) ← c.arg tag
      args tags (a :: done) outer c

/-- Reads what follows the address of a message. The first tag character is skipped whatever it is;
a tag string of at most one byte announces nothing. -/
def message (address : String) (c : Cursor) : Except DecodeFault (Message × Cursor) := do
  let (tags, c) ← c.text
  if tags.utf8ByteSize ≤ 1 then return (⟨address, []⟩, c)
  let (values, c) ← c.args tags.toList.tail [] []
  return (⟨address, values⟩, c)

mutual

/-- Reads a packet. Each level of bundles uses up one unit of `depth`. -/
def packet (depth : Nat) (c : Cursor) : Except DecodeFault Packet :=
  if c.rest.isEmpty then .error .empty
  else do
    let (start, c) ← c.text
    if start.toList.head? = some '/' then
      let (m, _) ← c.message start
      return .message m
    else if start = "#bundle" then
      let (seconds, c) ← c.number 4
      let (fraction, c) ← c.number 4
      match depth with
      | 0 => return .bundle ⟨seconds.toUInt32, fraction.toUInt32⟩ []
      | depth + 1 =>
        return .bundle ⟨seconds.toUInt32, fraction.toUInt32⟩ (elements depth c.rest.length c)
    else throw .unknownStart
termination_by (depth, 1, 0)

/-- Reads the elements of a bundle up to the first that fails. Each uses up one unit of `fuel`. -/
def elements (depth fuel : Nat) (c : Cursor) : List Packet :=
  match fuel with
  | 0 => []
  | fuel + 1 =>
    match c.number 4 with
    | .error _ => []
    | .ok (size, c) =>
      match c.take size with
      | .error _ => []
      | .ok (bytes, after) =>
        match packet depth ⟨c.offset, bytes⟩ with
        | .error _ => []
        | .ok p => p :: elements depth fuel after
termination_by (depth, 2, fuel)

end

end Cursor

/-- Reads the packet at the start of the bytes. A bundle is longer than its elements, so the number
of bytes bounds the depth. -/
def decode (bytes : List UInt8) : Except DecodeFault Packet :=
  Cursor.packet bytes.length ⟨0, bytes⟩

end RackRemote.Osc
