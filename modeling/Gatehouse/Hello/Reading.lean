import Gatehouse.Hello.Basic

namespace Gatehouse

/-!
# Reading handshakes

Length, checksum and tag are checked in this order before the block is touched.
Decrypting then writes the decrypted integer over the front of the block,
whatever is found wrong afterwards.
-/

namespace Hello

def acceptsVersion (version : UInt16) : Bool :=
  version = Protocol.acceptedVersion

/-- Check length, checksum and tag, and read what stands before the block. -/
def readHeader (layout : HelloLayout) (body : Bytes) : Except HelloError HelloHeader := do
  if body.length ≠ layout.length then
    throw (.length layout.length body.length)
  if Bytes.toUInt32 body ≠ Checksum.ofBytes (body.drop 4) then
    throw .checksum
  let tag := UInt8.ofNat (Bytes.ofLittleEndian ((body.drop 4).take 1))
  if tag ≠ layout.tag then
    throw (.tag tag)
  return {
    system := Bytes.toUInt16 (body.drop 5)
    version := Bytes.toUInt16 (body.drop 7)
  }

/-- Decrypt a block in place; answers the plaintext. -/
def openBlock (service : KeyPair) (block : Bytes) : Checked (Attempt HelloError Bytes) := do
  let attempt := service.decode block Protocol.keyBlockLength
  match attempt.outcome with
  | .error (.outputTooLarge _ _) => throw .brokenKey
  | .error _ => return { outcome := .error (.blockLength 0), buffer := attempt.buffer }
  | .ok length =>
      if length = Protocol.keyPlaintextLength then
        let plaintext ← attempt.buffer.slice 0 Protocol.keyPlaintextLength
        return { outcome := .ok plaintext, buffer := attempt.buffer }
      else
        return { outcome := .error (.blockLength length), buffer := attempt.buffer }

def keyField : Read CipherKey := do
  let word0 ← Read.uint32
  let word1 ← Read.uint32
  let word2 ← Read.uint32
  let word3 ← Read.uint32
  return { word0 := word0, word1 := word1, word2 := word2, word3 := word3 }

/-- Read a credential; one that is too long reads as empty. -/
def credentialField : Read Credential := do
  return Credential.empty.set (← Read.string (Credential.maxLength + 1))

/-- Read the plaintext of a login handshake; credentials only for the accepted version. -/
def loginPlaintext (header : HelloHeader) : Read LoginHello := do
  let key ← keyField
  let withoutCredentials : LoginHello := {
    system := header.system
    version := header.version
    key := key
    account := .empty
    password := .empty
  }
  if acceptsVersion header.version then
    let account ← credentialField
    let password ← credentialField
    return { withoutCredentials with account := account, password := password }
  else
    return withoutCredentials

/-- Read the plaintext of a game handshake; credentials only for the accepted version. -/
def gamePlaintext (header : HelloHeader) : Read GameHello := do
  let key ← keyField
  let withoutCredentials : GameHello := {
    system := header.system
    version := header.version
    key := key
    account := .empty
    character := .empty
    password := .empty
  }
  if acceptsVersion header.version then
    Read.skip 1
    let account ← credentialField
    let character ← credentialField
    let password ← credentialField
    return { withoutCredentials with
      account := account
      character := character
      password := password }
  else
    return withoutCredentials

/-- Read a handshake of the given layout, its plaintext with `read`. -/
def readWith
    (layout : HelloLayout)
    (read : HelloHeader → Read α)
    (service : KeyPair)
    (body : Bytes) :
    Checked (Attempt HelloError α) := do
  match readHeader layout body with
  | .error error => return { outcome := .error error, buffer := body }
  | .ok header =>
      let block ← body.slice layout.blockOffset body.length
      let decrypted ← openBlock service block
      let buffer := body.take layout.blockOffset ++ decrypted.buffer
      match decrypted.outcome with
      | .error error => return { outcome := .error error, buffer := buffer }
      | .ok plaintext =>
          match ((read header).run (Reader.ofBytes plaintext)).1 with
          | none => return { outcome := .error .truncated, buffer := buffer }
          | some handshake => return { outcome := .ok handshake, buffer := buffer }

/-- Read a handshake to the login service. -/
def readLogin : KeyPair → Bytes → Checked (Attempt HelloError LoginHello) :=
  readWith .login loginPlaintext

/-- Read a handshake to the game service. -/
def readGame : KeyPair → Bytes → Checked (Attempt HelloError GameHello) :=
  readWith .game gamePlaintext

end Hello

end Gatehouse
