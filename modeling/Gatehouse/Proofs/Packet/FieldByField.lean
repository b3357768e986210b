import Mathlib.Data.List.Forall2
import Gatehouse.Proofs.Packet.Overflow
import Gatehouse.Proofs.Packet.ReadCalls
import Gatehouse.Proofs.Packet.ReadingBack

namespace Gatehouse

/-!
# Packets read field by field

Reads that ask for the fields of a packet in order find them. Each moves the
reader by the bytes of its field, so a string that shows as empty because of its
limit does not disturb the fields behind it.
-/

namespace ReadCall

/-- A read asks for a field: for raw bytes by their number, for a string under any limit. -/
inductive AsksFor : ReadCall → Field → Prop
  | uint8 (value : UInt8) : AsksFor .uint8 (.uint8 value)
  | uint16 (value : UInt16) : AsksFor .uint16 (.uint16 value)
  | uint32 (value : UInt32) : AsksFor .uint32 (.uint32 value)
  | bytes (value : Bytes) : AsksFor (.bytes value.length) (.bytes value)
  | string (limit : Nat) (value : Bytes) : AsksFor (.string limit) (.string value)

/-- What a read shows of a field: all of it, unless it is a string that reaches the limit. -/
def shown : ReadCall → Field → Field
  | .string limit, .string value => .string (if value.length < limit then value else [])
  | _, field => field

/-- Reads in turn up to one that does not answer, and the fields that they read. -/
def readAll : List ReadCall → Read Packet
  | [] => return []
  | call :: rest => do
      let front ← call.read
      let back ← readAll rest
      return front ++ back

variable {call : ReadCall} {field : Field} {calls : List ReadCall} {packet : Packet}

/-- A read that asks for a field takes it and shows it. -/
theorem AsksFor.readsBack (asks : call.AsksFor field) :
    Read.ReadsBack call.read [field] [call.shown field] := by
  cases asks with
  | uint8 value =>
      exact (Read.ReadsBack.uint8 value).map fun value => [Field.uint8 value]
  | uint16 value =>
      exact (Read.ReadsBack.uint16 value).map fun value => [Field.uint16 value]
  | uint32 value =>
      exact (Read.ReadsBack.uint32 value).map fun value => [Field.uint32 value]
  | bytes value =>
      exact (Read.ReadsBack.bytes value).map fun value => [Field.bytes value]
  | string limit value =>
      exact (Read.ReadsBack.stringUnder limit value).map fun value => [Field.string value]

/-- No read asks for what cannot be expressed. -/
theorem unencodable_notMem_of_asks (asks : List.Forall₂ AsksFor calls packet) :
    .unencodable ∉ packet := by
  induction asks with
  | nil =>
      exact List.not_mem_nil
  | cons first others inductionHypothesis =>
      rw [List.mem_cons, not_or]
      refine ⟨?_, inductionHypothesis⟩
      rintro rfl
      cases first

/-- Reads that ask for the fields of a packet in order take and show all of them. -/
theorem readsBack_readAll (asks : List.Forall₂ AsksFor calls packet) :
    Read.ReadsBack (readAll calls) packet (List.zipWith shown calls packet) := by
  induction asks with
  | nil =>
      exact .pure []
  | @cons call field otherCalls otherFields first others inductionHypothesis =>
      exact first.readsBack.bind (inductionHypothesis.map fun back => [call.shown field] ++ back)

/-- The first reads stop behind the fields that they ask for, in front of the others. -/
theorem run_readAll_take
    {bytes : Bytes}
    (asks : List.Forall₂ AsksFor calls packet)
    (encoded : packet.encoding? = some bytes)
    (count : Nat) :
    ∃ reader,
      (readAll (calls.take count)).run (Reader.ofBytes bytes) =
        (some ((List.zipWith shown calls packet).take count), reader) ∧
        reader.position = Packet.size (packet.take count) ∧
        reader.remaining = Packet.size (packet.drop count) := by
  rw [← List.take_append_drop count packet] at encoded
  obtain ⟨front, back, frontEncoded, backEncoded, rfl⟩ := Packet.encoding?_append_eq_some encoded
  have frontSize := (Packet.isEncodable_of_encoding? frontEncoded).2
  have backSize := (Packet.isEncodable_of_encoding? backEncoded).2
  have ran := readsBack_readAll (List.forall₂_take count asks) front frontEncoded 0 back
  rw [← List.take_zipWith, Nat.zero_add] at ran
  exact ⟨_, ran, frontSize, backSize⟩

/--
A packet whose strings are not too long and that fits a buffer from a position on is
written whole. Of the bytes written, reads that ask for its fields in order show every
field, a string that reaches its limit as empty, and at the end no byte is left. After
any number of these reads the reader has passed over exactly the bytes of as many fields.
-/
theorem written_fields_read_back
    {buffer : Bytes}
    {start : Nat}
    (asks : List.Forall₂ AsksFor calls packet)
    (short : ∀ value, .string value ∈ packet → value.length ≤ 65535)
    (fits : start + packet.size ≤ buffer.length) :
    ((Writer.startingAt buffer start).packet packet).intact = true ∧
      ∃ bytes,
        ((Writer.startingAt buffer start).packet packet).buffer.slice start
            ((Writer.startingAt buffer start).packet packet).position =
          .ok bytes ∧
          (readAll calls).run (Reader.ofBytes bytes) =
            (some (List.zipWith shown calls packet), { position := packet.size, rest := [] }) ∧
          ∀ count,
            ∃ reader,
              (readAll (calls.take count)).run (Reader.ofBytes bytes) =
                (some ((List.zipWith shown calls packet).take count), reader) ∧
                reader.position = Packet.size (packet.take count) ∧
                reader.remaining = Packet.size (packet.drop count) := by
  have encodable : packet.IsEncodable := by
    rw [Packet.isEncodable_iff]
    exact ⟨unencodable_notMem_of_asks asks, short⟩
  obtain ⟨bytes, encoded, length_eq⟩ := Packet.encoding?_of_isEncodable encodable
  have inside : start + bytes.length ≤ buffer.length := by
    rwa [length_eq]
  obtain ⟨intact, position, written⟩ := Writer.startingAt_packet encoded inside
  refine ⟨intact, bytes, ?_, ?_, ?_⟩
  · rw [written, position, Bytes.slice_overwrite inside]
  · have ran := readsBack_readAll asks bytes encoded 0 []
    rwa [List.append_nil, length_eq, Nat.zero_add] at ran
  · exact run_readAll_take asks encoded

/-- Three reads ask for the fields of a packet in which one string reaches its limit. -/
theorem long_string_passed_over :
    ∃ bytes,
      ((Writer.startingAt (Bytes.zeros 16) 3).packet
              [.uint8 0x64, .string [0x61, 0x62, 0x63], .uint32 7]).buffer.slice 3 13 =
          .ok bytes ∧
        (readAll [.uint8, .string 3, .uint32]).run (Reader.ofBytes bytes) =
          (some [.uint8 0x64, .string [], .uint32 7], { position := 10, rest := [] }) := by
  have asks :
      List.Forall₂ AsksFor [.uint8, .string 3, .uint32]
        [.uint8 0x64, .string [0x61, 0x62, 0x63], .uint32 7] :=
    .cons (.uint8 _) (.cons (.string _ _) (.cons (.uint32 _) .nil))
  have fits : 3 + Packet.size [.uint8 0x64, .string [0x61, 0x62, 0x63], .uint32 7] ≤
      (Bytes.zeros 16).length := by
    decide
  obtain ⟨_, bytes, slice_eq, ran, _⟩ := written_fields_read_back asks (by simp) fits
  exact ⟨bytes, slice_eq, ran⟩

end ReadCall

end Gatehouse
