import Gatehouse.Packet.Tag
import Gatehouse.Packet.Writer

namespace Gatehouse

/-!
# The world snapshot

What a player receives on entering the world: the map around the player, an
empty inventory, the player's condition and skills, and the light. Only the
character's name varies, so the snapshot is as long as the name and a constant.
-/

namespace World

/-- The number by which the player's creature is known. -/
def playerCreature : UInt32 := 0x10000000

/-- The column where the player enters. -/
def spawnColumn : UInt16 := 100

/-- The row where the player enters. -/
def spawnRow : UInt16 := 100

/-- The floor where the player enters, which is the ground. -/
def groundFloor : UInt8 := 7

/-- Columns of the described map. -/
def mapWidth : Nat := 18

/-- Rows of the described map. -/
def mapHeight : Nat := 14

/-- The player's column on the described map. -/
def playerColumn : Nat := 8

/-- The player's row on the described map. -/
def playerRow : Nat := 6

/-- The item under everything. -/
def grass : UInt16 := 106

/-- The item beside the player. -/
def decoration : UInt16 := 1998

/-- The item on every other tile. -/
def filler : UInt16 := 2400

/-- What ends a tile. -/
def tileMark : UInt16 := 0xFF00

/-- What announces a creature that the client has not seen. -/
def unknownCreature : UInt16 := 0x61

/-- The length of the snapshot for a name of the given length. -/
def snapshotLength (nameLength : Nat) : Checked Nat :=
  Size.add 12200 nameLength

/-- The player's creature. -/
def creature (name : Bytes) : Packet :=
  [.uint16 unknownCreature,
    .uint32 0,
    .uint32 playerCreature,
    .string name,
    .uint8 100,
    .uint8 2,
    .uint16 136,
    .bytes [10, 10, 10, 10],
    .uint8 0,
    .uint8 0,
    .uint8 0,
    .uint16 100,
    .uint8 3,
    .uint8 3,
    .uint8 1,
    .uint8 1]

/-- What stands on a tile. -/
def occupant (name : Bytes) (floor column row : Nat) : Packet :=
  if floor = groundFloor.toNat ∧ row = playerRow ∧ column = playerColumn then
    creature name
  else if floor = groundFloor.toNat ∧ row = playerRow ∧ column = playerColumn + 1 then
    [.uint16 decoration]
  else
    [.uint16 filler]

def tile (name : Bytes) (floor column row : Nat) : Packet :=
  .uint16 grass :: (occupant name floor column row ++ [.uint16 tileMark])

/-- The columns of a floor from west to east, each from north to south. -/
def floorTiles (name : Bytes) (floor : Nat) : Packet :=
  (List.range mapWidth).flatMap fun column =>
    (List.range mapHeight).flatMap fun row => tile name floor column row

/-- The floors from the ground upwards. -/
def mapTiles (name : Bytes) : Packet :=
  [7, 6, 5, 4, 3, 2, 1, 0].flatMap (floorTiles name)

/-- The player's entry and the corner of the map. -/
def entry : Packet :=
  [.uint8 Tag.worldLogin,
    .uint32 playerCreature,
    .uint16 0x0032,
    .uint8 0,
    .uint8 Tag.mapDescription,
    .uint16 spawnColumn,
    .uint16 spawnRow,
    .uint8 groundFloor]

/-- Ten empty inventory slots. -/
def emptyInventory : Packet :=
  [1, 2, 3, 4, 5, 6, 7, 8, 9, 10].map fun slot => .uint16 (UInt16.ofNat (256 * slot + 0x79))

/-- The player's condition. -/
def condition : Packet :=
  [.uint8 Tag.playerStats,
    .uint16 125,
    .uint16 150,
    .uint32 10000,
    .uint32 155,
    .uint16 15,
    .uint8 50,
    .uint16 123,
    .uint16 321,
    .uint8 25,
    .uint8 75,
    .uint8 97,
    .uint16 61]

/-- The player's skills, each a level and a percentage. -/
def skills : Packet :=
  [.uint8 Tag.playerSkills,
    .uint8 11, .uint8 90,
    .uint8 12, .uint8 80,
    .uint8 13, .uint8 70,
    .uint8 14, .uint8 60,
    .uint8 15, .uint8 50,
    .uint8 16, .uint8 40,
    .uint8 17, .uint8 30]

def light : Packet :=
  [.uint8 Tag.worldLight, .uint8 70, .uint8 0xD7]

/-- The snapshot for a character. -/
def snapshot (name : Bytes) : Packet :=
  entry ++ mapTiles name ++ emptyInventory ++ condition ++ skills ++ light

end World

end Gatehouse
