import Gatehouse.Proofs.Configuration.Accepted
import Gatehouse.Proofs.Outgoing.FrameDraft
import Gatehouse.Proofs.Packet.Overflow
import Gatehouse.Proofs.Packet.World

namespace Gatehouse.World

/-!
# Sending the world snapshot

The snapshot is written if and only if as many bytes are left as its length says.
The least outbound buffer that validation accepts has room for the snapshot of
every name that a credential holds, and for a frame around it.
-/

theorem snapshotLength_of_short
    {nameLength : Nat}
    (short : nameLength ≤ 65535) :
    snapshotLength nameLength = .ok (12200 + nameLength) := by
  refine Size.check_eq_ok.mpr ⟨?_, rfl⟩
  rw [Size.limit]
  omega

section Writing

variable {writer : Writer} {name bytes : Bytes}

/-- The room that is left decides whether the snapshot is written. -/
theorem intact_snapshot_iff
    (intact : writer.intact = true)
    (short : name.length ≤ 65535) :
    (writer.packet (snapshot name)).intact = true ↔
      12200 + name.length ≤ writer.remaining := by
  rw [Writer.intact_packet_iff, size_snapshot]
  exact ⟨fun ⟨_, _, fits⟩ => fits, fun fits => ⟨intact, isEncodable_snapshot short, fits⟩⟩

theorem length_of_encoded
    (encoded : (snapshot name).encoding? = some bytes) :
    bytes.length = 12200 + name.length := by
  rw [(Packet.isEncodable_of_encoding? encoded).2, size_snapshot]

/-- A snapshot that is written stands in the buffer at the position where writing went on. -/
theorem written_of_intact_snapshot
    (encoded : (snapshot name).encoding? = some bytes)
    (intact : (writer.packet (snapshot name)).intact = true) :
    (writer.packet (snapshot name)).position = writer.position + (12200 + name.length) ∧
      (writer.packet (snapshot name)).buffer =
        writer.buffer.take writer.position ++
          (bytes ++ writer.buffer.drop (writer.position + (12200 + name.length))) := by
  obtain ⟨same, sameEncoded, _, wrote⟩ := Writer.hasWritten_of_intact intact
  obtain rfl : bytes = same := Option.some.inj (encoded.symm.trans sameEncoded)
  rw [← length_of_encoded encoded]
  exact ⟨wrote.adds.position_eq, wrote.adds.buffer_eq⟩

end Writing

/-- The snapshot is sealed in a new draft if the block is one that validation accepts. -/
theorem exists_sealWith_snapshot
    {block : Block}
    {name bytes : Bytes}
    (encoded : (snapshot name).encoding? = some bytes)
    (large : Protocol.minOutboundCapacity ≤ block.length)
    (small : block.length ≤ Frame.maxLength)
    (short : name.length ≤ 31)
    (key : CipherKey) :
    ∃ length sealed,
      ((FrameDraft.ofBlock block).append (snapshot name)).sealWith key =
          .ok (.ok length, sealed) ∧
        length ≤ block.length ∧
        sealed.frame = .ok (Frame.frameAround key bytes) := by
  have length_eq := length_of_encoded encoded
  rw [Protocol.minOutboundCapacity] at large
  have empty : (FrameDraft.ofBlock block).IsSound block.length :=
    FrameDraft.isSound_ofBlock rfl (by
      simp only [Frame.headerLength, FrameDraft.maxPadding]
      omega)
  obtain ⟨sound, payload_eq⟩ := empty.append encoded (by
    simp only [FrameDraft.ofBlock, Frame.headerLength, FrameDraft.maxPadding]
    omega)
  rw [FrameDraft.payload_ofBlock, List.nil_append] at payload_eq
  have nonempty : ((FrameDraft.ofBlock block).append (snapshot name)).payload ≠ [] := by
    rw [payload_eq, ← List.length_pos_iff]
    omega
  obtain ⟨sealed, done, shows⟩ := sound.sealWith_eq key small nonempty
  refine ⟨_, sealed, done, sound.lengthAround_le, ?_⟩
  rw [shows.frame_eq, payload_eq]

/--
A writer that is intact stays so through the snapshot if and only if as many bytes are
left as the snapshot's length says, and then moves by just as many. What it writes is the
same for all names in front of the name and behind it. In a block of any size that
validation accepts for outbound buffers, the snapshot for a name of at most 31 bytes is
sealed, and the frame around it ends inside the block.
-/
theorem snapshot_written_around_name :
    ∃ front back : Bytes,
      (∀ (writer : Writer) (name : Bytes),
        writer.intact = true →
        name.length ≤ 65535 →
        ∃ length,
          snapshotLength name.length = .ok length ∧
            ((writer.packet (snapshot name)).intact = true ↔ length ≤ writer.remaining) ∧
            ((writer.packet (snapshot name)).intact = true →
              (writer.packet (snapshot name)).position = writer.position + length ∧
                (writer.packet (snapshot name)).buffer =
                  writer.buffer.take writer.position ++
                    (nameBetween front back name ++
                      writer.buffer.drop (writer.position + length)))) ∧
        ∀ (config : GameSection) (block : Block) (name : Bytes) (key : CipherKey),
          config.outputBufferProblems = [] →
          block.length = config.outputBufferSize →
          name.length ≤ 31 →
          ∃ length sealed,
            ((FrameDraft.ofBlock block).append (snapshot name)).sealWith key =
                .ok (.ok length, sealed) ∧
              length ≤ block.length ∧
              sealed.frame = .ok (Frame.frameAround key (nameBetween front back name)) := by
  obtain ⟨front, back, _, encoded⟩ := exists_encoding?_snapshot
  refine ⟨front, back, ?_, ?_⟩
  · intro writer name intact short
    exact ⟨_, snapshotLength_of_short short, intact_snapshot_iff intact short,
      written_of_intact_snapshot (encoded name short)⟩
  · intro config block name key admitted sized short
    obtain ⟨large, small⟩ := Configuration.outputBuffer_of_problems admitted
    rw [← sized] at large small
    exact exists_sealWith_snapshot (encoded name (by omega)) large
      (Nat.le_trans small (by decide)) short key

/--
A snapshot for a name of one byte fills 12201 bytes and is cut short by one byte less;
the least outbound buffer has room for the frame around it.
-/
theorem short_snapshot_fills_its_length :
    ((Writer.ofBuffer (Bytes.zeros 12201)).packet (snapshot [0x61])).intact = true ∧
      ((Writer.ofBuffer (Bytes.zeros 12201)).packet (snapshot [0x61])).position = 12201 ∧
      ((Writer.ofBuffer (Bytes.zeros 12200)).packet (snapshot [0x61])).intact = false ∧
      ∃ length sealed,
        ((FrameDraft.ofBlock { address := 0, bytes := Bytes.zeros 13312 }).append
              (snapshot [0x61])).sealWith .zero =
            .ok (.ok length, sealed) ∧
          length ≤ 13312 := by
  have intact_eq (size : Nat) : (Writer.ofBuffer (Bytes.zeros size)).intact = true := by
    simp [Writer.ofBuffer, Writer.startingAt]
  have remaining_eq (size : Nat) : (Writer.ofBuffer (Bytes.zeros size)).remaining = size := by
    simp [Writer.remaining, Writer.ofBuffer, Writer.startingAt]
  obtain ⟨front, back, isWritten, isSealed⟩ := snapshot_written_around_name
  obtain ⟨length, length_eq, fits_iff, written⟩ :=
    isWritten (Writer.ofBuffer (Bytes.zeros 12201)) [0x61] (intact_eq _) (by decide)
  obtain ⟨sameLength, sameLength_eq, short_iff, _⟩ :=
    isWritten (Writer.ofBuffer (Bytes.zeros 12200)) [0x61] (intact_eq _) (by decide)
  obtain rfl : 12201 = length := Except.ok.inj length_eq
  obtain rfl : 12201 = sameLength := Except.ok.inj sameLength_eq
  rw [remaining_eq] at fits_iff short_iff
  have intact := fits_iff.mpr (Nat.le_refl _)
  have moved := (written intact).1
  rw [Writer.ofBuffer, Writer.position_startingAt, Nat.zero_min, Nat.zero_add] at moved
  obtain ⟨total, sealed, done, inside, _⟩ :=
    isSealed { outputBufferSize := 13312 } { address := 0, bytes := Bytes.zeros 13312 } [0x61]
      .zero rfl (Bytes.length_zeros 13312) (by decide)
  rw [Block.length, Bytes.length_zeros] at inside
  refine ⟨intact, moved, ?_, total, sealed, done, inside⟩
  rw [Bool.eq_false_iff]
  intro stillIntact
  exact absurd (short_iff.mp stillIntact) (by decide)

end Gatehouse.World
