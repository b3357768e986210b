import Gatehouse.Net.IPv4
import Gatehouse.Packet.Tag
import Gatehouse.Packet.Writer

namespace Gatehouse

/-!
# Replies

The packets that the two services send, apart from the snapshot of the world.
-/

/-- A character, and where to play it. -/
structure CharacterListing where
  name : Bytes
  world : Bytes
  host : IPv4
  port : UInt16
deriving DecidableEq, Repr

namespace Packet

/-- Message of the day. -/
def motd (text : Bytes) : Packet :=
  [.uint8 Tag.motd, .string text]

/-- The fields of one character. -/
def characterEntry (entry : CharacterListing) : Packet :=
  [.string entry.name, .string entry.world, .bytes entry.host.octets, .uint16 entry.port]

/-- The characters of an account; more than 255 cannot be counted. -/
def characterList (entries : List CharacterListing) (premiumDays : UInt16) : Packet :=
  if entries.length ≤ 255 then
    [.uint8 Tag.characterList, .uint8 (UInt8.ofNat entries.length)] ++
      entries.flatMap characterEntry ++
      [.uint16 premiumDays]
  else
    [.uint8 Tag.characterList, .unencodable]

/-- The login is refused. -/
def loginDisconnect (reason : Bytes) : Packet :=
  [.uint8 Tag.loginDisconnect, .string reason]

/-- The game connection ends. -/
def gameDisconnect (reason : Bytes) : Packet :=
  [.uint8 Tag.gameDisconnect, .string reason]

def inventoryItem (slot : UInt8) (item : UInt16) : Packet :=
  [.uint8 Tag.inventoryItem, .uint8 slot, .uint16 item]

/-- The client asks whether to log in again. -/
def reloginPrompt : Packet :=
  [.uint8 Tag.relogin]

end Packet

end Gatehouse
