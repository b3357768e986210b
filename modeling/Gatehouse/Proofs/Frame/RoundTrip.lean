import Gatehouse.Proofs.Frame.Opening
import Gatehouse.Proofs.Frame.Sealing

namespace Gatehouse.Frame

/-!
# Sealing and opening undo each other

The round trip of a frame in both directions: from a payload through a buffer
and back, and from a body that was accepted through its payload and back.
-/

/-- Every payload up to this length has a frame that the length field can express. -/
def maxPayloadLength : Nat := 65526

theorem lengthAround_le_maxLength
    {payloadLength : Nat}
    (small : payloadLength ≤ maxPayloadLength) :
    lengthAround payloadLength ≤ maxLength := by
  simp only [maxPayloadLength] at small
  simp only [lengthAround, sealedStart, maxLength]
  omega

/-- The length field of a frame that can be expressed is read back. -/
theorem ofLittleEndian_take_frameAround
    {payload : Bytes}
    (key : CipherKey)
    (expressible : lengthAround payload.length ≤ maxLength) :
    Bytes.ofLittleEndian ((frameAround key payload).take 2) = lengthAround payload.length - 2 := by
  have field :
      (frameAround key payload).take 2 =
        Bytes.ofUInt16 (UInt16.ofNat (lengthAround payload.length - 2)) :=
    List.take_left' (Bytes.length_ofUInt16 _)
  have small : lengthAround payload.length - 2 < 2 ^ 16 := by
    simp only [maxLength] at expressible
    omega
  rw [field, Bytes.ofUInt16, UInt16.toNat_ofNat_of_lt' small,
    Bytes.ofLittleEndian_littleEndian_of_lt small]

/-- The payload of a frame, if its length is that of its body and the body opens. -/
def opened? (key : CipherKey) (frame : Bytes) : Option Bytes :=
  if Bytes.ofLittleEndian (frame.take 2) = (frame.drop 2).length then
    match extract (frame.drop 2) key with
    | .ok { outcome := .ok payload, .. } => some payload
    | _ => none
  else
    none

theorem opened?_frameAround
    {payload : Bytes}
    (key : CipherKey)
    (expressible : lengthAround payload.length ≤ maxLength) :
    opened? key (frameAround key payload) = some payload := by
  have small : payload.length < 65536 := by
    have balance := lengthAround_eq payload.length
    simp only [headerLength] at balance
    simp only [maxLength] at expressible
    omega
  unfold opened?
  rw [ofLittleEndian_take_frameAround key expressible, drop_frameAround, length_bodyAround,
    if_pos rfl, extract_bodyAround key small]

/-- What is left of the body around a payload holds only padding behind the payload. -/
theorem isPadding_plainRegion
    {checksum : Bytes}
    (width : checksum.length = 4)
    (payload : Bytes) :
    IsPadding ((checksum ++ plainRegion payload).drop (sealedStart + payload.length)) := by
  have front :
      (checksum ++ (Bytes.ofUInt16 (UInt16.ofNat payload.length) ++ payload)).length =
        sealedStart + payload.length := by
    simp only [List.length_append, Bytes.length_ofUInt16, width, sealedStart]
    omega
  have behind :
      (checksum ++ plainRegion payload).drop (sealedStart + payload.length) =
        List.replicate (paddingAround payload.length) paddingByte := by
    rw [plainRegion, ← List.append_assoc (Bytes.ofUInt16 _), ← List.append_assoc checksum,
      List.drop_left' front]
  rw [behind]
  refine ⟨?_, fun byte member => List.eq_of_mem_replicate member⟩
  rw [List.length_replicate]
  exact paddingAround_lt payload.length

/--
A payload of at most the longest length is enclosed in every buffer that holds
its frame, and opening the frame's body answers it with only padding behind it.
A body that opens to a payload with only padding behind it is reproduced, with
its length in front, by enclosing that payload.
-/
theorem enclose_extract_round_trip (key : CipherKey) :
    (∀ payload buffer : Bytes,
      1 ≤ payload.length →
      payload.length ≤ maxPayloadLength →
      ∃ total,
        sealedLength payload.length = .ok total ∧
          (total ≤ buffer.length →
            ∃ out left,
              enclose payload key buffer = .ok { outcome := .ok total, buffer := out } ∧
                Bytes.ofLittleEndian (out.take 2) = total - 2 ∧
                0 < ((out.take total).drop sealedStart).length ∧
                ((out.take total).drop sealedStart).length % 8 = 0 ∧
                extract ((out.take total).drop 2) key =
                  .ok { outcome := .ok payload, buffer := left } ∧
                IsPadding (left.drop (sealedStart + payload.length)))) ∧
      ∀ body payload left buffer : Bytes,
        body.length ≤ 65535 →
        payload ≠ [] →
        extract body key = .ok { outcome := .ok payload, buffer := left } →
        IsPadding (left.drop (sealedStart + payload.length)) →
        2 + body.length ≤ buffer.length →
        ∃ out,
          enclose payload key buffer =
              .ok { outcome := .ok (2 + body.length), buffer := out } ∧
            out.take (2 + body.length) = Bytes.littleEndian 2 body.length ++ body := by
  constructor
  · intro payload buffer positive small
    have expressible := lengthAround_le_maxLength small
    have isSize : lengthAround payload.length < Size.limit :=
      Nat.lt_of_le_of_lt expressible (by decide)
    refine ⟨lengthAround payload.length, sealedLength_eq_ok.mpr ⟨isSize, rfl⟩, ?_⟩
    intro fits
    have front :
        (frameAround key payload ++ buffer.drop (lengthAround payload.length)).take
            (lengthAround payload.length) =
          frameAround key payload :=
      List.take_left' (length_frameAround key payload)
    have field :
        (frameAround key payload ++ buffer.drop (lengthAround payload.length)).take 2 =
          (frameAround key payload).take 2 := by
      apply List.take_append_of_le_length
      rw [length_frameAround, lengthAround]
      simp only [sealedStart]
      omega
    have nonempty : payload ≠ [] := List.ne_nil_of_length_pos positive
    have opened := extract_bodyAround key (Nat.lt_of_le_of_lt small (by decide))
    rw [← drop_frameAround, ← front] at opened
    refine ⟨_, _, enclose_of_fits key nonempty fits expressible, ?_, ?_, ?_, opened,
      isPadding_plainRegion (Bytes.length_ofUInt32 _) payload⟩
    · rw [field]
      exact ofLittleEndian_take_frameAround key expressible
    · rw [front, List.length_drop, length_frameAround, lengthAround]
      omega
    · rw [front, List.length_drop, length_frameAround, lengthAround]
      omega
  · intro body payload left buffer short nonempty opened padded fits
    have same := eq_bodyAround opened padded
    have total : 2 + body.length = lengthAround payload.length := by
      rw [same, length_bodyAround, lengthAround]
      simp only [sealedStart]
      omega
    have expressible : lengthAround payload.length ≤ maxLength := by
      simp only [maxLength]
      omega
    have inner : lengthAround payload.length - 2 = body.length := by
      omega
    rw [total] at fits ⊢
    refine ⟨_, enclose_of_fits key nonempty fits expressible, ?_⟩
    rw [List.take_left' (length_frameAround key payload), frameAround, inner, ← same,
      Bytes.ofUInt16, UInt16.toNat_ofNat_of_lt' (Nat.lt_succ_of_le short)]

/-- A payload of one byte takes the round trip through a buffer of two blocks, and back. -/
theorem round_trip_of_one_byte :
    ∃ out left again,
      enclose [0x28] .zero (Bytes.zeros 16) = .ok { outcome := .ok 14, buffer := out } ∧
        extract ((out.take 14).drop 2) .zero =
          .ok { outcome := .ok [0x28], buffer := left } ∧
        IsPadding (left.drop 7) ∧
        enclose [0x28] .zero (Bytes.zeros 16) =
          .ok { outcome := .ok (2 + ((out.take 14).drop 2).length), buffer := again } ∧
        again.take (2 + ((out.take 14).drop 2).length) =
          Bytes.littleEndian 2 ((out.take 14).drop 2).length ++ (out.take 14).drop 2 := by
  obtain ⟨trip, back⟩ := enclose_extract_round_trip .zero
  obtain ⟨total, computed, through⟩ := trip [0x28] (Bytes.zeros 16) (by decide) (by decide)
  have isFourteen : total = 14 := (sealedLength_eq_ok.mp computed).2
  subst isFourteen
  obtain ⟨out, left, enclosed, _, _, _, opened, padded⟩ := through (by decide)
  have short : ((out.take 14).drop 2).length ≤ 12 := by
    rw [List.length_drop, List.length_take]
    omega
  have room : 2 + ((out.take 14).drop 2).length ≤ (Bytes.zeros 16).length := by
    rw [Bytes.length_zeros]
    omega
  obtain ⟨again, enclosedAgain, reproduced⟩ :=
    back _ [0x28] left (Bytes.zeros 16) (by omega) (by decide) opened padded room
  exact ⟨out, left, again, enclosed, opened, padded, enclosedAgain, reproduced⟩

end Gatehouse.Frame
