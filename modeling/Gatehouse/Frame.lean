import Gatehouse.Checksum
import Gatehouse.Cipher
import Gatehouse.Text.Hexadecimal

namespace Gatehouse

/-!
# Sealed frames

A frame is a 16-bit length of all that follows it, a checksum of the encrypted
region, and the region itself: a 16-bit payload length, the payload, and padding
up to a whole number of cipher blocks. The length is taken off before a frame
reaches `Frame.extract`; the rest is the frame's body.

Sealing works in place on a buffer that holds the payload at offset 8 and either
succeeds or leaves the buffer as it was.
-/

/-- Why a frame cannot be sealed or opened. -/
inductive FrameError where
  /-- The body is shorter than a checksum and one block. -/
  | tooShort (length : Nat)
  /-- The encrypted region is not a whole number of blocks. -/
  | misaligned (length : Nat)
  /-- The checksum in the body is not that of the region. -/
  | checksumMismatch (expected actual : UInt32)
  /-- The payload length is more than the region holds. -/
  | payloadOverflow (declared available : Nat)
  /-- There is no payload to seal. -/
  | emptyPayload
  /-- The frame does not fit the buffer, or a length does not fit its field. -/
  | bufferTooSmall (needed capacity : Nat)
deriving DecidableEq, Repr

/-- The message for a caller. -/
def FrameError.message : FrameError → String
  | .tooShort length => s!"frame too short: {length} bytes"
  | .misaligned length => s!"encrypted region of {length} bytes is not a multiple of 8"
  | .checksumMismatch expected actual =>
      "checksum mismatch: frame says " ++ Hexadecimal.ofNumber 8 expected.toNat ++
        ", computed " ++ Hexadecimal.ofNumber 8 actual.toNat
  | .payloadOverflow declared available =>
      s!"payload length {declared} exceeds the {available} decrypted bytes"
  | .emptyPayload => "refusing to seal an empty payload"
  | .bufferTooSmall needed capacity => s!"frame needs {needed} bytes, buffer holds {capacity}"

namespace Frame

/-- Where the payload starts in a sealed frame. -/
def headerLength : Nat := 8

/-- Where the encrypted region starts in a sealed frame. -/
def sealedStart : Nat := 6

/-- What the region is padded with. -/
def paddingByte : UInt8 := 0x33

/-- The least length of a body: a checksum and one block. -/
def minBodyLength : Nat := 12

/-- The length of the frame around a payload. -/
def sealedLength (payloadLength : Nat) : Checked Nat := do
  let content ← Size.add 2 payloadLength
  let region ← Size.roundUp content CipherKey.blockLength
  Size.add sealedStart region

/-- Encrypt a region and write it with its header over the front of the buffer. -/
def sealRegion
    (buffer region : Bytes)
    (key : CipherKey)
    (total : Nat) :
    Attempt FrameError Nat :=
  match key.encrypt region with
  | .error _ =>
      { outcome := .error (.misaligned region.length)
        buffer := buffer.overwrite sealedStart region }
  | .ok encrypted =>
      { outcome := .ok total
        buffer := buffer.overwrite 0
          (Bytes.ofUInt16 (UInt16.ofNat (total - 2)) ++
            (Bytes.ofUInt32 (Checksum.ofBytes encrypted) ++ encrypted)) }

/-- Seal the payload of the given length that the buffer holds at offset 8. -/
def sealPayload
    (buffer : Bytes)
    (payloadLength : Nat)
    (key : CipherKey) :
    Checked (Attempt FrameError Nat) := do
  if payloadLength = 0 then
    return { outcome := .error .emptyPayload, buffer := buffer }
  let total ← sealedLength payloadLength
  if buffer.length < total ∨ 65535 < total - 2 ∨ 65535 < payloadLength then
    return { outcome := .error (.bufferTooSmall total buffer.length), buffer := buffer }
  let payload ← buffer.slice headerLength (headerLength + payloadLength)
  let padding := List.replicate (total - (headerLength + payloadLength)) paddingByte
  let region := Bytes.ofUInt16 (UInt16.ofNat payloadLength) ++ (payload ++ padding)
  return sealRegion buffer region key total

/-- Copy a payload into a buffer and seal it there. -/
def enclose
    (payload : Bytes)
    (key : CipherKey)
    (buffer : Bytes) :
    Checked (Attempt FrameError Nat) := do
  let needed ← sealedLength payload.length
  if buffer.length < headerLength + payload.length then
    return { outcome := .error (.bufferTooSmall needed buffer.length), buffer := buffer }
  sealPayload (buffer.overwrite headerLength payload) payload.length key

/-- The payload in a decrypted region. -/
def payloadOf (region : Bytes) : Checked (Except FrameError Bytes) := do
  let declared := (Bytes.toUInt16 region).toNat
  let available ← Size.sub region.length 2
  if available < declared then
    return .error (.payloadOverflow declared available)
  return .ok (← region.slice 2 (2 + declared))

/-- Open the body of a frame; the region is decrypted in place once the checksum matched. -/
def extract (body : Bytes) (key : CipherKey) : Checked (Attempt FrameError Bytes) := do
  if body.length < minBodyLength then
    return { outcome := .error (.tooShort body.length), buffer := body }
  let region := body.drop 4
  if region.length % CipherKey.blockLength ≠ 0 then
    return { outcome := .error (.misaligned region.length), buffer := body }
  let expected := Bytes.toUInt32 body
  let actual := Checksum.ofBytes region
  if expected ≠ actual then
    return { outcome := .error (.checksumMismatch expected actual), buffer := body }
  match key.decrypt region with
  | .error _ => return { outcome := .error (.misaligned region.length), buffer := body }
  | .ok decrypted =>
      return { outcome := ← payloadOf decrypted, buffer := body.take 4 ++ decrypted }

end Frame

end Gatehouse
