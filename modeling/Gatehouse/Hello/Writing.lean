import Gatehouse.Hello.Basic

namespace Gatehouse

/-!
# Writing handshakes

What a client sends. The plaintext is 127 bytes whatever is written into it: a
credential that does not fit is left out, and so is everything after it.
-/

namespace Hello

/-- The operating system that handshakes written here declare. -/
def declaredSystem : UInt16 := 2

/-- The words of a cipher key. -/
def keyFields (key : CipherKey) : Packet :=
  key.words.map .uint32

/-- The plaintext that holds as many of the fields as fit. -/
def plaintextOf (fields : Packet) : Bytes :=
  ((Writer.ofBuffer (Bytes.zeros Protocol.keyPlaintextLength)).packet fields).buffer

/-- Encrypt a plaintext into a block, right-aligned. -/
def sealBlock (service : KeyPair) (plaintext : Bytes) : Except KeyError Bytes := do
  let attempt := service.encode (0 :: plaintext) Protocol.keyBlockLength
  let length ← attempt.outcome
  return Bytes.zeros (Protocol.keyBlockLength - length) ++ attempt.buffer.take length

/-- Write a handshake of the given layout around the fields of its plaintext. -/
def writeWith
    (layout : HelloLayout)
    (service : KeyPair)
    (version : UInt16)
    (fields : Packet) :
    Except KeyError Bytes := do
  let block ← sealBlock service (plaintextOf fields)
  let header := layout.tag :: (Bytes.ofUInt16 declaredSystem ++ Bytes.ofUInt16 version)
  let padding := Bytes.zeros (layout.blockOffset - (4 + header.length))
  let content := header ++ (padding ++ block)
  return Bytes.ofUInt32 (Checksum.ofBytes content) ++ content

/-- Write a handshake to the login service. -/
def writeLogin
    (service : KeyPair)
    (version : UInt16)
    (key : CipherKey)
    (account password : Bytes) :
    Except KeyError Bytes :=
  writeWith .login service version (keyFields key ++ [.string account, .string password])

/-- Write a handshake to the game service. -/
def writeGame
    (service : KeyPair)
    (version : UInt16)
    (key : CipherKey)
    (account character password : Bytes) :
    Except KeyError Bytes :=
  writeWith .game service version
    (keyFields key ++ [.uint8 0, .string account, .string character, .string password])

end Hello

end Gatehouse
