namespace Gatehouse

/-!
# Packet tags

The first byte of a packet. The same number means different packets to the
login and the game service, and to a server and a client.
-/

namespace Tag

/-- Login service: the login is refused, for the reason that follows. -/
def loginDisconnect : UInt8 := 0x0A

/-- Login service: message of the day. -/
def motd : UInt8 := 0x14

/-- Login service: the characters of an account. -/
def characterList : UInt8 := 0x64

/-- Game service: the player enters the world. -/
def worldLogin : UInt8 := 0x0A

/-- Game service: the connection ends, for the reason that follows. -/
def gameDisconnect : UInt8 := 0x14

/-- Game service: the client asks whether to log in again. -/
def relogin : UInt8 := 0x28

/-- Game service: the map around the player. -/
def mapDescription : UInt8 := 0x64

/-- Game service: an item in an inventory slot. -/
def inventoryItem : UInt8 := 0x78

/-- Game service: the light of the world. -/
def worldLight : UInt8 := 0x82

/-- Game service: the player's condition. -/
def playerStats : UInt8 := 0xA0

/-- Game service: the player's skills. -/
def playerSkills : UInt8 := 0xA1

/-- Client: log out. -/
def clientLogout : UInt8 := 0x14

/-- Client: say a text. -/
def clientSay : UInt8 := 0x96

/-- Every tag, in the order of this module. -/
def all : List UInt8 :=
  [loginDisconnect, motd, characterList, worldLogin, gameDisconnect, relogin, mapDescription,
    inventoryItem, worldLight, playerStats, playerSkills, clientLogout, clientSay]

end Tag

end Gatehouse
