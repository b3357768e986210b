import Gatehouse.Bytes

namespace Gatehouse

/-!
# The session cipher

XTEA: 64-bit blocks, a 128-bit key, 32 double rounds, each block on its own.
Bytes are read as little-endian words. Both directions refuse data that is not
a whole number of blocks.
-/

/-- A cipher key: four words. -/
structure CipherKey where
  word0 : UInt32
  word1 : UInt32
  word2 : UInt32
  word3 : UInt32
deriving DecidableEq, Repr

/-- Why the cipher refuses data. -/
inductive CipherError where
  /-- The data is not a whole number of blocks. -/
  | unalignedLength (length : Nat)
deriving DecidableEq, Repr

/-- The message for a caller. -/
def CipherError.message : CipherError → String
  | .unalignedLength length => s!"length {length} is not a multiple of 8"

namespace CipherKey

/-- Bytes in a block. -/
def blockLength : Nat := 8

/-- Double rounds per block. -/
def rounds : Nat := 32

/-- The round constant. -/
def delta : UInt32 := 0x9E3779B9

/-- The round constant sum that decryption starts from. -/
def decryptSum : UInt32 := 0xC6EF3720

/-- The key of a connection that has not sent one. -/
def zero : CipherKey where
  word0 := 0
  word1 := 0
  word2 := 0
  word3 := 0

/-- The key that sixteen bytes spell. -/
def ofBytes (bytes : Bytes) : CipherKey where
  word0 := Bytes.toUInt32 bytes
  word1 := Bytes.toUInt32 (bytes.drop 4)
  word2 := Bytes.toUInt32 (bytes.drop 8)
  word3 := Bytes.toUInt32 (bytes.drop 12)

/-- The words in order. -/
def words (key : CipherKey) : List UInt32 :=
  [key.word0, key.word1, key.word2, key.word3]

/-- The word that the low two bits of `selector` choose. -/
def select (key : CipherKey) (selector : UInt32) : UInt32 :=
  if selector % 4 = 0 then key.word0
  else if selector % 4 = 1 then key.word1
  else if selector % 4 = 2 then key.word2
  else key.word3

/-- What one half of a block contributes to the other. -/
def mix (half : UInt32) : UInt32 :=
  ((half <<< 4) ^^^ (half >>> 5)) + half

/-- The first half of a double round's key material. -/
def lowerKey (key : CipherKey) (sum : UInt32) : UInt32 :=
  sum + key.select sum

/-- The second half of a double round's key material. -/
def upperKey (key : CipherKey) (sum : UInt32) : UInt32 :=
  sum + key.select (sum >>> 11)

/-- The remaining double rounds of encryption, from round constant sum `sum` on. -/
def encipher (key : CipherKey) : Nat → UInt32 → UInt32 × UInt32 → UInt32 × UInt32
  | 0, _, halves => halves
  | count + 1, sum, (left, right) =>
      let left := left + (mix right ^^^ key.lowerKey sum)
      let sum := sum + delta
      let right := right + (mix left ^^^ key.upperKey sum)
      encipher key count sum (left, right)

/-- The remaining double rounds of decryption, from round constant sum `sum` down. -/
def decipher (key : CipherKey) : Nat → UInt32 → UInt32 × UInt32 → UInt32 × UInt32
  | 0, _, halves => halves
  | count + 1, sum, (left, right) =>
      let right := right - (mix left ^^^ key.upperKey sum)
      let sum := sum - delta
      let left := left - (mix right ^^^ key.lowerKey sum)
      decipher key count sum (left, right)

/-- Encrypt the two halves of a block. -/
def encryptHalves (key : CipherKey) (halves : UInt32 × UInt32) : UInt32 × UInt32 :=
  key.encipher rounds 0 halves

/-- Decrypt the two halves of a block. -/
def decryptHalves (key : CipherKey) (halves : UInt32 × UInt32) : UInt32 × UInt32 :=
  key.decipher rounds decryptSum halves

/-- Apply `transform` to every block; bytes after the last whole block stay. -/
def mapBlocks (transform : UInt32 × UInt32 → UInt32 × UInt32) : Bytes → Bytes
  | b0 :: b1 :: b2 :: b3 :: b4 :: b5 :: b6 :: b7 :: rest =>
      let halves := transform (Bytes.toUInt32 [b0, b1, b2, b3], Bytes.toUInt32 [b4, b5, b6, b7])
      Bytes.ofUInt32 halves.1 ++ (Bytes.ofUInt32 halves.2 ++ mapBlocks transform rest)
  | rest => rest

/-- Apply `transform` to every block of aligned data. -/
def onAligned
    (transform : UInt32 × UInt32 → UInt32 × UInt32)
    (data : Bytes) :
    Except CipherError Bytes :=
  if data.length % blockLength = 0 then
    .ok (mapBlocks transform data)
  else
    .error (.unalignedLength data.length)

/-- Encrypt a whole number of blocks. -/
def encrypt (key : CipherKey) (data : Bytes) : Except CipherError Bytes :=
  onAligned key.encryptHalves data

/-- Decrypt a whole number of blocks. -/
def decrypt (key : CipherKey) (data : Bytes) : Except CipherError Bytes :=
  onAligned key.decryptHalves data

/-- What a log may show of a key. -/
def redacted (_key : CipherKey) : String := "XteaKey(..)"

end CipherKey

end Gatehouse
