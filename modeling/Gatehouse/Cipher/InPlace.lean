import Gatehouse.Cipher

namespace Gatehouse.CipherKey

/-!
# The session cipher in place

A buffer is encrypted and decrypted where it is: block after block is loaded as
two words, transformed, and stored back. Whether the buffer is a whole number of
blocks is found out before anything is stored.
-/

/-- The two words of the block at an offset. -/
def loadBlock (buffer : Bytes) (offset : Nat) : Checked (UInt32 × UInt32) := do
  let left ← buffer.slice offset (offset + 4)
  let right ← buffer.slice (offset + 4) (offset + 8)
  return (Bytes.toUInt32 left, Bytes.toUInt32 right)

/-- The buffer with two words stored as the block at an offset. -/
def storeBlock (buffer : Bytes) (offset : Nat) (halves : UInt32 × UInt32) : Bytes :=
  (buffer.overwrite offset (Bytes.ofUInt32 halves.1)).overwrite (offset + 4)
    (Bytes.ofUInt32 halves.2)

/-- Transform a number of blocks where they are, from an offset on. -/
def transformFrom
    (transform : UInt32 × UInt32 → UInt32 × UInt32) :
    (count offset : Nat) → Bytes → Checked Bytes
  | 0, _, buffer => .ok buffer
  | count + 1, offset, buffer => do
      let halves ← loadBlock buffer offset
      transformFrom transform count (offset + blockLength)
        (storeBlock buffer offset (transform halves))

/-- Transform all blocks of a buffer where they are, if it is a whole number of blocks. -/
def transformInPlace
    (transform : UInt32 × UInt32 → UInt32 × UInt32)
    (buffer : Bytes) :
    Checked (Attempt CipherError Unit) :=
  if buffer.length % blockLength = 0 then do
    let transformed ← transformFrom transform (buffer.length / blockLength) 0 buffer
    return { outcome := .ok (), buffer := transformed }
  else
    .ok { outcome := .error (.unalignedLength buffer.length), buffer := buffer }

/-- Encrypt a buffer in place. -/
def encryptInPlace (key : CipherKey) (buffer : Bytes) : Checked (Attempt CipherError Unit) :=
  transformInPlace key.encryptHalves buffer

/-- Decrypt a buffer in place. -/
def decryptInPlace (key : CipherKey) (buffer : Bytes) : Checked (Attempt CipherError Unit) :=
  transformInPlace key.decryptHalves buffer

end Gatehouse.CipherKey
