import Gatehouse.Packet.Writer
import Gatehouse.Proofs.Bytes.Pieces
import Gatehouse.Proofs.Bytes.Words

namespace Gatehouse

/-!
# Writing packets that fit

The bytes of a packet are those of its fields in order. A packet that fits is
written whole: the writer stays intact, moves by exactly the bytes of the
packet, and leaves the buffer with those bytes at its start position.
-/

/-- The bytes of the fields of a packet in order; none if a field has none. -/
def Packet.encoding? : Packet → Option Bytes
  | [] => some []
  | field :: rest => do return (← field.encoding?) ++ (← encoding? rest)

namespace Packet

theorem encoding?_append
    {first second : Packet}
    {firstBytes secondBytes : Bytes}
    (firstEncoded : encoding? first = some firstBytes)
    (secondEncoded : encoding? second = some secondBytes) :
    encoding? (first ++ second) = some (firstBytes ++ secondBytes) := by
  induction first generalizing firstBytes with
  | nil =>
      cases firstEncoded
      exact secondEncoded
  | cons field rest inductionHypothesis =>
      simp only [encoding?, Option.bind_eq_bind, Option.bind_eq_some_iff, Option.pure_def,
        Option.some.injEq] at firstEncoded
      rcases firstEncoded with ⟨fieldBytes, fieldEncoded, restBytes, restEncoded, rfl⟩
      have restOfBoth := inductionHypothesis restEncoded
      simp [encoding?, fieldEncoded, restOfBoth]

/-- The bytes of packets in a row are those of the first and then those of the second. -/
theorem encoding?_append_eq_some
    {first second : Packet}
    {bytes : Bytes}
    (encoded : encoding? (first ++ second) = some bytes) :
    ∃ front back,
      encoding? first = some front ∧ encoding? second = some back ∧ bytes = front ++ back := by
  induction first generalizing bytes with
  | nil =>
      exact ⟨[], bytes, rfl, encoded, rfl⟩
  | cons field rest inductionHypothesis =>
      simp only [List.cons_append, encoding?, Option.bind_eq_bind, Option.bind_eq_some_iff,
        Option.pure_def, Option.some.injEq] at encoded
      rcases encoded with ⟨fieldBytes, fieldEncoded, restBytes, restEncoded, rfl⟩
      obtain ⟨front, back, frontEncoded, backEncoded, rfl⟩ := inductionHypothesis restEncoded
      refine ⟨fieldBytes ++ front, back, ?_, backEncoded, by simp⟩
      simp [encoding?, fieldEncoded, frontEncoded]

/-- A short text behind a tag is spelled by the tag, its length, a zero and the text. -/
theorem encoding?_tagged
    {text : Bytes}
    (short : text.length < 256)
    (tag : UInt8) :
    encoding? [.uint8 tag, .string text] =
      some (tag :: UInt8.ofNat text.length :: 0 :: text) := by
  have expressible : text.length ≤ 65535 := by
    omega
  simp [encoding?, Field.encoding?, expressible, Bytes.ofUInt16_of_lt short]

end Packet

namespace Writer

/-- A writer after it wrote some bytes, be it spoiled since or not. -/
structure Adds (writer : Writer) (bytes : Bytes) (after : Writer) : Prop where
  before_eq : after.before = writer.before
  behind_eq : after.behind = writer.behind
  written_eq : after.written.toList = writer.written.toList ++ bytes

/-- A writer after it wrote some bytes: it is intact and has those bytes behind what it had. -/
structure HasWritten (writer : Writer) (bytes : Bytes) (after : Writer) : Prop where
  before_eq : after.before = writer.before
  behind_eq : after.behind = writer.behind
  written_eq : after.written.toList = writer.written.toList ++ bytes
  intact : after.intact = true

theorem HasWritten.adds
    {writer after : Writer}
    {bytes : Bytes}
    (wrote : writer.HasWritten bytes after) :
    writer.Adds bytes after :=
  ⟨wrote.before_eq, wrote.behind_eq, wrote.written_eq⟩

@[simp]
theorem buffer_startingAt (buffer : Bytes) (start : Nat) :
    (startingAt buffer start).buffer = buffer := by
  simp [Writer.buffer, startingAt]

@[simp]
theorem position_startingAt (buffer : Bytes) (start : Nat) :
    (startingAt buffer start).position = min start buffer.length := by
  simp [position, startingAt]

theorem length_buffer (writer : Writer) :
    writer.buffer.length = writer.before.length + writer.behind.length := by
  have balance := writer.room_eq
  simp only [buffer, List.length_append, List.length_drop, Array.length_toList]
  omega

/-- The next byte goes into the buffer or right behind it. -/
theorem position_le (writer : Writer) : writer.position ≤ writer.buffer.length := by
  have balance := writer.room_eq
  rw [length_buffer, position]
  omega

namespace Adds

theorem refl (writer : Writer) : writer.Adds [] writer :=
  ⟨rfl, rfl, (List.append_nil _).symm⟩

variable {writer after : Writer} {bytes : Bytes} (adds : writer.Adds bytes after)

include adds

theorem trans
    {last : Writer}
    {more : Bytes}
    (addsMore : after.Adds more last) :
    writer.Adds (bytes ++ more) last where
  before_eq := addsMore.before_eq.trans adds.before_eq
  behind_eq := addsMore.behind_eq.trans adds.behind_eq
  written_eq := by
    rw [addsMore.written_eq, adds.written_eq, List.append_assoc]

theorem size_written : after.written.size = writer.written.size + bytes.length := by
  rw [← Array.length_toList, adds.written_eq, List.length_append, Array.length_toList]

/-- The position moves by exactly the bytes written. -/
theorem position_eq : after.position = writer.position + bytes.length := by
  rw [position, position, adds.before_eq, adds.size_written, Nat.add_assoc]

theorem length_buffer : after.buffer.length = writer.buffer.length := by
  rw [Writer.length_buffer, Writer.length_buffer, adds.before_eq, adds.behind_eq]

/-- The bytes written replace those at the position, and no others. -/
theorem buffer_eq :
    after.buffer =
      writer.buffer.take writer.position ++
        (bytes ++ writer.buffer.drop (writer.position + bytes.length)) := by
  have front : (writer.before ++ writer.written.toList).length = writer.position := by
    rw [List.length_append, Array.length_toList, position]
  have split :
      writer.buffer =
        (writer.before ++ writer.written.toList) ++ writer.behind.drop writer.written.size := by
    rw [Writer.buffer, List.append_assoc]
  have rest :
      writer.buffer.drop (writer.position + bytes.length) =
        writer.behind.drop (writer.written.size + bytes.length) := by
    rw [← List.drop_drop, split, List.drop_left' front, List.drop_drop]
  rw [rest, split, List.take_left' front, Writer.buffer, adds.before_eq, adds.behind_eq,
    adds.written_eq, adds.size_written]
  simp only [List.append_assoc]

end Adds

theorem HasWritten.trans
    {writer between after : Writer}
    {first second : Bytes}
    (wroteFirst : writer.HasWritten first between)
    (wroteSecond : between.HasWritten second after) :
    writer.HasWritten (first ++ second) after := by
  obtain ⟨before_eq, behind_eq, written_eq⟩ := wroteFirst.adds.trans wroteSecond.adds
  exact ⟨before_eq, behind_eq, written_eq, wroteSecond.intact⟩

/-- What was written and what may follow are all that is behind the start. -/
theorem HasWritten.room_eq
    {writer after : Writer}
    {bytes : Bytes}
    (wrote : writer.HasWritten bytes after) :
    after.room + bytes.length = writer.room := by
  have balance := writer.room_eq
  have balanceAfter := after.room_eq
  have size := wrote.adds.size_written
  rw [wrote.behind_eq] at balanceAfter
  omega

theorem append_of_fits
    {writer : Writer}
    {bytes : Bytes}
    (intact : writer.intact = true)
    (fits : bytes.length ≤ writer.room) :
    writer.HasWritten bytes (writer.append bytes) := by
  have both : writer.intact = true ∧ bytes.length ≤ writer.room := ⟨intact, fits⟩
  unfold append
  rw [dif_pos both]
  exact ⟨rfl, rfl, by simp, intact⟩

theorem packet_of_fits
    {writer : Writer}
    {packet : Packet}
    {bytes : Bytes}
    (intact : writer.intact = true)
    (encoded : packet.encoding? = some bytes)
    (fits : bytes.length ≤ writer.room) :
    writer.HasWritten bytes (writer.packet packet) := by
  induction packet generalizing writer bytes with
  | nil =>
      cases encoded
      exact ⟨rfl, rfl, by simp [packet], intact⟩
  | cons field rest inductionHypothesis =>
      simp only [Packet.encoding?, Option.bind_eq_bind, Option.bind_eq_some_iff, Option.pure_def,
        Option.some.injEq] at encoded
      rcases encoded with ⟨fieldBytes, fieldEncoded, restBytes, restEncoded, rfl⟩
      rw [List.length_append] at fits
      have first : writer.HasWritten fieldBytes (writer.field field) := by
        simp only [Writer.field, fieldEncoded]
        exact append_of_fits intact (by omega)
      have room := first.room_eq
      have second : (writer.field field).HasWritten restBytes (writer.packet (field :: rest)) :=
        inductionHypothesis first.intact restEncoded (by omega)
      exact first.trans second

/-- A writer that is intact after a field was so before, and has written the field. -/
theorem hasWritten_of_intact_field
    {writer : Writer}
    {field : Field}
    (intact : (writer.field field).intact = true) :
    ∃ bytes,
      field.encoding? = some bytes ∧
        writer.intact = true ∧ writer.HasWritten bytes (writer.field field) := by
  cases encoded : field.encoding? with
  | none =>
      simp [Writer.field, encoded, spoil] at intact
  | some bytes =>
      have field_eq : writer.field field = writer.append bytes := by
        simp only [Writer.field, encoded]
      rw [field_eq] at intact ⊢
      by_cases fits : writer.intact = true ∧ bytes.length ≤ writer.room
      · exact ⟨bytes, rfl, fits.1, append_of_fits fits.1 fits.2⟩
      · rw [append, dif_neg fits] at intact
        simp [spoil] at intact

/-- A writer that is intact after a packet was so before, and has written the packet. -/
theorem hasWritten_of_intact
    {writer : Writer}
    {packet : Packet}
    (intact : (writer.packet packet).intact = true) :
    ∃ bytes,
      packet.encoding? = some bytes ∧
        writer.intact = true ∧ writer.HasWritten bytes (writer.packet packet) := by
  induction packet generalizing writer with
  | nil =>
      exact ⟨[], rfl, intact, rfl, rfl, by simp [packet], intact⟩
  | cons field rest inductionHypothesis =>
      obtain ⟨restBytes, restEncoded, intactBetween, second⟩ :=
        @inductionHypothesis (writer.field field) intact
      obtain ⟨fieldBytes, fieldEncoded, intactBefore, first⟩ :=
        hasWritten_of_intact_field intactBetween
      refine ⟨fieldBytes ++ restBytes, ?_, intactBefore, first.trans second⟩
      simp [Packet.encoding?, fieldEncoded, restEncoded]

/-- A packet that fits from a position on overwrites the buffer there. -/
theorem startingAt_packet
    {buffer : Bytes}
    {position : Nat}
    {packet : Packet}
    {bytes : Bytes}
    (encoded : packet.encoding? = some bytes)
    (fits : position + bytes.length ≤ buffer.length) :
    ((startingAt buffer position).packet packet).intact = true ∧
      ((startingAt buffer position).packet packet).position = position + bytes.length ∧
      ((startingAt buffer position).packet packet).buffer = buffer.overwrite position bytes := by
  have intact : (startingAt buffer position).intact = true := by
    simp only [startingAt, decide_eq_true_eq]
    omega
  have room : bytes.length ≤ (startingAt buffer position).room := by
    simp only [startingAt, List.length_drop]
    omega
  have wrote := packet_of_fits intact encoded room
  have start : (startingAt buffer position).position = position := by
    rw [position_startingAt]
    omega
  refine ⟨wrote.intact, ?_, ?_⟩
  · rw [wrote.adds.position_eq, start]
  · rw [wrote.adds.buffer_eq, start, buffer_startingAt, Bytes.overwrite_of_fits fits]

theorem packet_append (writer : Writer) (first second : Packet) :
    writer.packet (first ++ second) = (writer.packet first).packet second :=
  List.foldl_append

/-- A field adds its bytes, or none. -/
theorem exists_adds_field (writer : Writer) (field : Field) :
    ∃ bytes, writer.Adds bytes (writer.field field) := by
  unfold Writer.field append spoil
  split
  next bytes encoded =>
    split
    next fits =>
      exact ⟨bytes, rfl, rfl, by simp⟩
    next full =>
      exact ⟨[], rfl, rfl, by simp⟩
  next inexpressible =>
    exact ⟨[], rfl, rfl, by simp⟩

/-- A packet, whether it fits or not, only adds to what was written. -/
theorem exists_adds_packet (writer : Writer) (packet : Packet) :
    ∃ bytes, writer.Adds bytes (writer.packet packet) := by
  induction packet generalizing writer with
  | nil =>
      exact ⟨[], .refl writer⟩
  | cons field rest inductionHypothesis =>
      obtain ⟨fieldBytes, addsField⟩ := writer.exists_adds_field field
      obtain ⟨restBytes, addsRest⟩ := inductionHypothesis (writer.field field)
      exact ⟨fieldBytes ++ restBytes, addsField.trans addsRest⟩

theorem length_buffer_of_packet (writer : Writer) (packet : Packet) :
    (writer.packet packet).buffer.length = writer.buffer.length := by
  obtain ⟨bytes, adds⟩ := writer.exists_adds_packet packet
  exact adds.length_buffer

/-- A packet that fits stands at the front of the buffer, whatever is written behind it. -/
theorem prefix_buffer_packet
    {buffer : Bytes}
    {first : Packet}
    {bytes : Bytes}
    (encoded : first.encoding? = some bytes)
    (fits : bytes.length ≤ buffer.length)
    (second : Packet) :
    bytes <+: ((ofBuffer buffer).packet (first ++ second)).buffer := by
  have wrote : (ofBuffer buffer).HasWritten bytes ((ofBuffer buffer).packet first) :=
    packet_of_fits (by simp [ofBuffer, startingAt]) encoded
      (by simpa [ofBuffer, startingAt] using fits)
  obtain ⟨more, addsMore⟩ := ((ofBuffer buffer).packet first).exists_adds_packet second
  have start : (ofBuffer buffer).position = 0 := by
    rw [ofBuffer, position_startingAt, Nat.zero_min]
  rw [packet_append, (wrote.adds.trans addsMore).buffer_eq, start, List.take_zero,
    List.nil_append, List.append_assoc]
  exact List.prefix_append _ _

/-- Writing keeps the length of the buffer, and ends inside it. -/
theorem length_buffer_packet
    {buffer : Bytes}
    {position : Nat}
    (inside : position ≤ buffer.length)
    (packet : Packet) :
    ((startingAt buffer position).packet packet).buffer.length = buffer.length ∧
      position ≤ ((startingAt buffer position).packet packet).position ∧
      ((startingAt buffer position).packet packet).position ≤ buffer.length := by
  obtain ⟨bytes, adds⟩ := (startingAt buffer position).exists_adds_packet packet
  have kept := adds.length_buffer
  rw [buffer_startingAt] at kept
  refine ⟨kept, ?_, ?_⟩
  · rw [adds.position_eq, position_startingAt, Nat.min_eq_left inside]
    exact Nat.le_add_right _ _
  · rw [← kept]
    exact position_le _

end Writer

end Gatehouse
