import Gatehouse.Fault

namespace Gatehouse

/-!
# Byte strings

Byte strings are lists of bytes. This module holds the little-endian form of
fixed-width integers, the big-endian form of natural numbers, checked slices,
and writing one byte string over part of another.
-/

/-- A byte string. -/
abbrev Bytes := List UInt8

/-- The result of an operation on a buffer, together with the buffer as it was left. -/
structure Attempt (ε α : Type) where
  outcome : Except ε α
  buffer : Bytes

namespace Bytes

/-- The low `width` bytes of a number, least significant byte first. -/
def littleEndian : (width value : Nat) → Bytes
  | 0, _ => []
  | width + 1, value => UInt8.ofNat value :: littleEndian width (value / 256)

/-- The number that a byte string spells, least significant byte first. -/
def ofLittleEndian : Bytes → Nat
  | [] => 0
  | byte :: rest => byte.toNat + 256 * ofLittleEndian rest

/-- Two bytes, low byte first. -/
def ofUInt16 (value : UInt16) : Bytes :=
  littleEndian 2 value.toNat

/-- Four bytes, low byte first. -/
def ofUInt32 (value : UInt32) : Bytes :=
  littleEndian 4 value.toNat

/-- The 16-bit number in the first two bytes, low byte first. -/
def toUInt16 (bytes : Bytes) : UInt16 :=
  UInt16.ofNat (ofLittleEndian (bytes.take 2))

/-- The 32-bit number in the first four bytes, low byte first. -/
def toUInt32 (bytes : Bytes) : UInt32 :=
  UInt32.ofNat (ofLittleEndian (bytes.take 4))

/-- Put the bytes of `value` in front of `after`, most significant byte first. -/
def bigEndianOnto (value : Nat) (after : Bytes) : Bytes :=
  if value = 0 then after else bigEndianOnto (value / 256) (UInt8.ofNat value :: after)
termination_by value
decreasing_by omega

/-- The fewest bytes that spell a number, most significant byte first; none for zero. -/
def bigEndian (value : Nat) : Bytes :=
  bigEndianOnto value []

/-- The number that a byte string spells, most significant byte first. -/
def ofBigEndian (bytes : Bytes) : Nat :=
  bytes.foldl (fun value byte => 256 * value + byte.toNat) 0

/-- The UTF-8 form of a text. -/
def ofText (text : String) : Bytes :=
  text.toUTF8.data.toList

/-- The text that a byte string spells in UTF-8, if it spells one. -/
def toText? (bytes : Bytes) : Option String :=
  String.fromUTF8? (ByteArray.mk bytes.toArray)

/-- The bytes from `start` up to `stop`; a bound outside the buffer stops the program. -/
def slice (buffer : Bytes) (start stop : Nat) : Checked Bytes :=
  if start ≤ stop ∧ stop ≤ buffer.length then
    .ok ((buffer.drop start).take (stop - start))
  else
    .error .outOfRange

/-- Write `bytes` over the buffer from `start` on; bytes past the end of the buffer are dropped. -/
def overwrite (buffer : Bytes) (start : Nat) (bytes : Bytes) : Bytes :=
  buffer.take start ++ bytes.take (buffer.length - start) ++ buffer.drop (start + bytes.length)

/-- A buffer of `length` zero bytes. -/
def zeros (length : Nat) : Bytes :=
  List.replicate length 0

@[simp]
theorem length_littleEndian (width value : Nat) : (littleEndian width value).length = width := by
  induction width generalizing value with
  | zero => rfl
  | succ width inductionHypothesis => simp [littleEndian, inductionHypothesis]

@[simp]
theorem length_ofUInt16 (value : UInt16) : (ofUInt16 value).length = 2 := by
  simp [ofUInt16]

@[simp]
theorem length_ofUInt32 (value : UInt32) : (ofUInt32 value).length = 4 := by
  simp [ofUInt32]

/-- A slice answers exactly the bytes between bounds that lie in order inside the buffer. -/
theorem slice_eq_ok {buffer result : Bytes} {start stop : Nat} :
    slice buffer start stop = .ok result ↔
      (start ≤ stop ∧ stop ≤ buffer.length) ∧ result = (buffer.drop start).take (stop - start) := by
  unfold slice
  split
  next inside => simp [inside, eq_comm]
  next outside => simp [outside]

/-- Writing over a buffer keeps its length. -/
@[simp]
theorem length_overwrite (buffer : Bytes) (start : Nat) (bytes : Bytes) :
    (overwrite buffer start bytes).length = buffer.length := by
  simp only [overwrite, List.length_append, List.length_take, List.length_drop]
  omega

@[simp]
theorem length_zeros (length : Nat) : (zeros length).length = length := by
  simp [zeros]

end Bytes

end Gatehouse
