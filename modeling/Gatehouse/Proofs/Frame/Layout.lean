import Gatehouse.Frame
import Gatehouse.Proofs.Bytes.Pieces
import Gatehouse.Proofs.Cipher

namespace Gatehouse.Frame

/-!
# The layout of a frame

The frame around a payload, said without buffers: the plain region, its
encryption, the body with the checksum, and the frame with the length. Sealing
a payload in place leaves this frame at the front of the buffer, and opening
the body of this frame answers the payload.
-/

/-- Bytes of the frame around a payload of the given length. -/
def lengthAround (payloadLength : Nat) : Nat :=
  sealedStart + 8 * ((payloadLength + 9) / 8)

/-- Bytes of padding behind a payload of the given length. -/
def paddingAround (payloadLength : Nat) : Nat :=
  lengthAround payloadLength - (headerLength + payloadLength)

/-- The region around a payload before it is encrypted. -/
def plainRegion (payload : Bytes) : Bytes :=
  Bytes.ofUInt16 (UInt16.ofNat payload.length) ++
    (payload ++ List.replicate (paddingAround payload.length) paddingByte)

/-- The region around a payload once it is encrypted. -/
def cipherRegion (key : CipherKey) (payload : Bytes) : Bytes :=
  CipherKey.mapBlocks key.encryptHalves (plainRegion payload)

/-- The body of the frame around a payload. -/
def bodyAround (key : CipherKey) (payload : Bytes) : Bytes :=
  Bytes.ofUInt32 (Checksum.ofBytes (cipherRegion key payload)) ++ cipherRegion key payload

/-- The frame around a payload. -/
def frameAround (key : CipherKey) (payload : Bytes) : Bytes :=
  Bytes.ofUInt16 (UInt16.ofNat (lengthAround payload.length - 2)) ++ bodyAround key payload

theorem roundUp_blockLength_eq_ok {size result : Nat} :
    Size.roundUp size CipherKey.blockLength = .ok result ↔
      8 * ((size + 7) / 8) < Size.limit ∧ result = 8 * ((size + 7) / 8) := by
  unfold Size.roundUp CipherKey.blockLength
  split
  next aligned =>
    rw [Size.check_eq_ok]
    omega
  next unaligned =>
    rw [Size.check_eq_ok]
    omega

theorem sealedLength_eq_ok {payloadLength total : Nat} :
    sealedLength payloadLength = .ok total ↔
      lengthAround payloadLength < Size.limit ∧ total = lengthAround payloadLength := by
  simp only [sealedLength, Checked.bind_eq_ok, Size.add, Size.check_eq_ok,
    roundUp_blockLength_eq_ok, lengthAround, sealedStart]
  constructor
  · intro answered
    rcases answered with ⟨content, ⟨_, rfl⟩, region, ⟨_, rfl⟩, small, rfl⟩
    omega
  · intro answers
    rcases answers with ⟨small, rfl⟩
    exact ⟨2 + payloadLength, by omega, 8 * ((payloadLength + 9) / 8), by omega, small, rfl⟩

/-- A frame holds its header, its payload and fewer than eight bytes of padding. -/
theorem lengthAround_eq (payloadLength : Nat) :
    lengthAround payloadLength =
      headerLength + payloadLength + paddingAround payloadLength := by
  simp only [paddingAround, lengthAround, sealedStart, headerLength]
  omega

theorem paddingAround_lt (payloadLength : Nat) : paddingAround payloadLength < 8 := by
  simp only [paddingAround, lengthAround, sealedStart, headerLength]
  omega

/-- The padding is the one number below a block that completes the region. -/
theorem eq_paddingAround
    {payloadLength padding : Nat}
    (short : padding < 8)
    (aligned : (2 + payloadLength + padding) % 8 = 0) :
    padding = paddingAround payloadLength := by
  simp only [paddingAround, lengthAround, sealedStart, headerLength]
  omega

@[simp]
theorem length_plainRegion (payload : Bytes) :
    (plainRegion payload).length = lengthAround payload.length - sealedStart := by
  have balance := lengthAround_eq payload.length
  simp only [headerLength] at balance
  simp only [plainRegion, List.length_append, Bytes.length_ofUInt16, List.length_replicate,
    sealedStart]
  omega

theorem plainRegion_aligned (payload : Bytes) :
    (plainRegion payload).length % CipherKey.blockLength = 0 := by
  simp only [length_plainRegion, lengthAround, sealedStart, CipherKey.blockLength]
  omega

@[simp]
theorem length_cipherRegion (key : CipherKey) (payload : Bytes) :
    (cipherRegion key payload).length = lengthAround payload.length - sealedStart := by
  simp [cipherRegion]

@[simp]
theorem length_bodyAround (key : CipherKey) (payload : Bytes) :
    (bodyAround key payload).length = lengthAround payload.length - 2 := by
  simp only [bodyAround, List.length_append, Bytes.length_ofUInt32, length_cipherRegion,
    lengthAround, sealedStart]
  omega

@[simp]
theorem length_frameAround (key : CipherKey) (payload : Bytes) :
    (frameAround key payload).length = lengthAround payload.length := by
  simp only [frameAround, List.length_append, Bytes.length_ofUInt16, length_bodyAround,
    lengthAround, sealedStart]
  omega

/-- The body is what follows the length of a frame. -/
theorem drop_frameAround (key : CipherKey) (payload : Bytes) :
    (frameAround key payload).drop 2 = bodyAround key payload :=
  List.drop_left' (Bytes.length_ofUInt16 _)

end Gatehouse.Frame
