import Gatehouse.Bytes

namespace Gatehouse

/-!
# Writing packets

A packet is a list of fields. A writer fills a buffer from a start position on
with the encodings of fields; a field that does not fit, or that has no
encoding, spoils the writer, and a spoiled writer writes nothing more. Callers
write whole packets and look once, at the end.
-/

/-- One field of a packet. -/
inductive Field where
  | uint8 (value : UInt8)
  | uint16 (value : UInt16)
  | uint32 (value : UInt32)
  /-- Bytes with nothing in front of them. -/
  | bytes (value : Bytes)
  /-- Bytes behind their 16-bit length. -/
  | string (value : Bytes)
  /-- A value that the format cannot express. -/
  | unencodable
deriving DecidableEq, Repr

/-- The fields of a packet in order. -/
abbrev Packet := List Field

/-- The bytes of a field; a string longer than its length field can say has none. -/
def Field.encoding? : Field → Option Bytes
  | .uint8 value => some [value]
  | .uint16 value => some (Bytes.ofUInt16 value)
  | .uint32 value => some (Bytes.ofUInt32 value)
  | .bytes value => some value
  | .string value =>
      if value.length ≤ 65535 then
        some (Bytes.ofUInt16 (UInt16.ofNat value.length) ++ value)
      else
        none
  | .unencodable => none

/-- A buffer being written: what was written, and how many bytes may follow. -/
structure Writer where
  /-- The buffer up to where writing starts. -/
  before : Bytes
  /-- What the buffer held from there on. -/
  behind : Bytes
  written : Array UInt8
  room : Nat
  intact : Bool
  room_eq : written.size + room = behind.length := by simp

namespace Writer

/-- Write from `position` on; a position past the end spoils the writer at once. -/
def startingAt (buffer : Bytes) (position : Nat) : Writer where
  before := buffer.take position
  behind := buffer.drop position
  written := #[]
  room := (buffer.drop position).length
  intact := position ≤ buffer.length

/-- Write from the front of a buffer on. -/
def ofBuffer (buffer : Bytes) : Writer :=
  startingAt buffer 0

/-- Where the next byte goes. -/
def position (writer : Writer) : Nat :=
  writer.before.length + writer.written.size

/-- Bytes between the position and the end of the buffer. -/
def remaining (writer : Writer) : Nat :=
  writer.room

/-- Whether `count` more bytes would be written. -/
def admits (writer : Writer) (count : Nat) : Bool :=
  writer.intact && count ≤ writer.room

/-- Write nothing more. -/
def spoil (writer : Writer) : Writer :=
  { writer with intact := false }

/-- Write bytes whole or not at all. -/
def append (writer : Writer) (bytes : Bytes) : Writer :=
  if fits : writer.intact ∧ bytes.length ≤ writer.room then
    { writer with
      written := writer.written ++ bytes.toArray
      room := writer.room - bytes.length
      room_eq := by
        have balance := writer.room_eq
        have enough := fits.2
        simp only [Array.size_append, List.size_toArray]
        omega }
  else
    writer.spoil

/-- Write a field. -/
def field (writer : Writer) (field : Field) : Writer :=
  match field.encoding? with
  | some bytes => writer.append bytes
  | none => writer.spoil

/-- Write the fields of a packet in order. -/
def packet (writer : Writer) (packet : Packet) : Writer :=
  packet.foldl field writer

/-- The buffer as the writer leaves it. -/
def buffer (writer : Writer) : Bytes :=
  writer.before ++ (writer.written.toList ++ writer.behind.drop writer.written.size)

end Writer

end Gatehouse
