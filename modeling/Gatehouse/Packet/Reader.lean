import Gatehouse.Bytes

namespace Gatehouse

/-!
# Reading packets

A reader is a position in a byte string and the bytes from there on. A read that
finds too few bytes answers nothing and leaves the reader where that read began;
a string is a length and then its bytes, two reads, so a length whose bytes are
cut off has been read when the string fails.
-/

/-- A position in a byte string. -/
structure Reader where
  position : Nat
  rest : Bytes
deriving DecidableEq, Repr

/-- A read: an answer, or none, and the reader afterwards in both cases. -/
abbrev Read (α : Type) := OptionT (StateM Reader) α

namespace Reader

/-- A reader at the front of a byte string. -/
def ofBytes (bytes : Bytes) : Reader where
  position := 0
  rest := bytes

/-- Bytes not yet read. -/
def remaining (reader : Reader) : Nat :=
  reader.rest.length

end Reader

namespace Read

/-- Perform a read. -/
def run (read : Read α) (reader : Reader) : Option α × Reader :=
  StateT.run (OptionT.run read) reader

/-- Take the next `count` bytes. -/
def bytes (count : Nat) : Read Bytes :=
  OptionT.mk fun reader =>
    if count ≤ reader.rest.length then
      (some (reader.rest.take count),
        { position := reader.position + count, rest := reader.rest.drop count })
    else
      (none, reader)

/-- Take one byte. -/
def uint8 : Read UInt8 := do
  let taken ← bytes 1
  return UInt8.ofNat (Bytes.ofLittleEndian taken)

/-- Take a 16-bit number. -/
def uint16 : Read UInt16 := do
  return Bytes.toUInt16 (← bytes 2)

/-- Take a 32-bit number. -/
def uint32 : Read UInt32 := do
  return Bytes.toUInt32 (← bytes 4)

/-- Take a string; one of `limit` bytes or more is taken too, but reads as empty. -/
def string (limit : Nat) : Read Bytes := do
  let length ← uint16
  let taken ← bytes length.toNat
  return if length.toNat < limit then taken else []

/-- Pass over the next `count` bytes. -/
def skip (count : Nat) : Read Unit := do
  let _ ← bytes count

end Read

end Gatehouse
