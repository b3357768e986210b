import Gatehouse.Cipher
import Gatehouse.FixedText
import Gatehouse.Frame
import Gatehouse.KeyPair.Basic
import Gatehouse.Packet.Reader
import Gatehouse.Packet.Writer
import Gatehouse.Protocol

namespace Gatehouse

/-!
# Handshakes

The first message of a client: a checksum of the rest, a tag, the client's
operating system and version, padding, and a block encrypted under the service
key. The block carries the session's cipher key and, for the accepted version,
the credentials.
-/

/-- Why a handshake is refused. -/
inductive HelloError where
  /-- The message is not as long as this kind of handshake is. -/
  | length (expected actual : Nat)
  /-- The checksum is not that of the rest. -/
  | checksum
  /-- The tag is not that of this kind of handshake. -/
  | tag (found : UInt8)
  /-- The encrypted block decrypts to another number of bytes. -/
  | blockLength (found : Nat)
  /-- A credential is cut off by the end of the block. -/
  | truncated
deriving DecidableEq, Repr

/-- The message for a caller. -/
def HelloError.message : HelloError → String
  | .length expected actual => s!"handshake must be {expected} bytes, got {actual}"
  | .checksum => "handshake checksum mismatch"
  | .tag found => "unexpected handshake tag " ++ Hexadecimal.ofNumber 2 found.toNat
  | .blockLength found => s!"RSA block decoded to {found} bytes"
  | .truncated => "handshake credentials truncated"

/-- A handshake to the login service. -/
structure LoginHello where
  system : UInt16
  version : UInt16
  key : CipherKey
  account : Credential
  password : Credential
deriving DecidableEq, Repr

/-- A handshake to the game service. -/
structure GameHello where
  system : UInt16
  version : UInt16
  key : CipherKey
  account : Credential
  character : Credential
  password : Credential
deriving DecidableEq, Repr

/-- The layout of one kind of handshake. -/
structure HelloLayout where
  length : Nat
  tag : UInt8
  blockOffset : Nat

namespace HelloLayout

/-- Handshakes to the login service. -/
def login : HelloLayout where
  length := Protocol.loginHandshakeLength
  tag := 0x01
  blockOffset := 21

/-- Handshakes to the game service. -/
def game : HelloLayout where
  length := Protocol.gameHandshakeLength
  tag := 0x0A
  blockOffset := 9

end HelloLayout

/-- What stands before the encrypted block. -/
structure HelloHeader where
  system : UInt16
  version : UInt16
deriving DecidableEq, Repr

end Gatehouse
