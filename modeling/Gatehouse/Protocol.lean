namespace Gatehouse

/-!
# Protocol constants

The client version that the services accept and the dimensions of its messages.
-/

namespace Protocol

/-- The client version that the services accept. -/
def acceptedVersion : UInt16 := 860

/-- The same version as clients show it. -/
def acceptedVersionText : String := "8.60"

/-- Bytes of the encrypted block in a handshake. -/
def keyBlockLength : Nat := 128

/-- Bytes that the encrypted block has to decrypt to. -/
def keyPlaintextLength : Nat := 127

/-- Bytes of a handshake to the login service. -/
def loginHandshakeLength : Nat := 149

/-- Bytes of a handshake to the game service. -/
def gameHandshakeLength : Nat := 137

/-- Port of the login service unless configured. -/
def loginPort : UInt16 := 7171

/-- Port of the game service unless configured. -/
def gamePort : UInt16 := 7172

/-- Milliseconds between ticks unless configured. -/
def tickIntervalMs : Nat := 33

/-- Bytes of the buffer in which the login service builds its reply. -/
def loginReplyCapacity : Nat := 512

/-- The least bytes of an outbound buffer that a configuration may ask for. -/
def minOutboundCapacity : Nat := 13312

/-- What a client of another version is told. -/
def wrongVersion : String :=
  "This server requires client version " ++ acceptedVersionText ++ "."

end Protocol

end Gatehouse
