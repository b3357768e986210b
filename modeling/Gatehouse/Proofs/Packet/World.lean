import Mathlib.Data.List.Nodup
import Gatehouse.Packet.World
import Gatehouse.Proofs.Packet.Size

namespace Gatehouse.World

/-!
# The size and the layout of the world snapshot

Every tile of the map takes six bytes, except that the player's creature takes
the place of an item on one tile. So the snapshot is as long as the name and a
constant. The creature is also the only part that holds the name, so the bytes
in front of the name and those behind it are the same for all names.
-/

/-- Bytes that the creature takes more than an item. -/
def creatureExcess (name : Bytes) : Nat :=
  27 + name.length

/-- One if the player stands on a tile, and zero otherwise. -/
def playersOn (floor column row : Nat) : Nat :=
  if floor = groundFloor.toNat ∧ row = playerRow ∧ column = playerColumn then 1 else 0

theorem sum_map_add_mul (items : List α) (constant factor : Nat) (count : α → Nat) :
    (items.map fun item => constant + factor * count item).sum =
      constant * items.length + factor * (items.map count).sum := by
  induction items with
  | nil =>
      rfl
  | cons item rest inductionHypothesis =>
      simp only [List.map_cons, List.sum_cons, List.length_cons, inductionHypothesis, Nat.mul_add]
      omega

/-- A tile takes six bytes, and more if the player stands there. -/
theorem size_tile (name : Bytes) (floor column row : Nat) :
    Packet.size (tile name floor column row) =
      6 + creatureExcess name * playersOn floor column row := by
  simp only [tile, occupant, playersOn, creatureExcess]
  split
  next onPlayer =>
    simp [creature, Field.size]
    omega
  next elsewhere =>
    split <;> simp [Field.size]

theorem size_mapTiles (name : Bytes) :
    Packet.size (mapTiles name) = 12096 + creatureExcess name := by
  have players :
      ([7, 6, 5, 4, 3, 2, 1, 0].map fun floor =>
        ((List.range mapWidth).map fun column =>
          ((List.range mapHeight).map (playersOn floor column)).sum).sum).sum = 1 := by
    decide
  simp only [mapTiles, floorTiles, Packet.size_flatMap, size_tile, sum_map_add_mul,
    List.length_range, players]
  simp only [mapWidth, mapHeight, List.length_cons, List.length_nil]
  omega

/-- The snapshot is as long as the name and a constant. -/
theorem size_snapshot (name : Bytes) : Packet.size (snapshot name) = 12200 + name.length := by
  simp only [snapshot, Packet.size_append, size_mapTiles, creatureExcess]
  simp [entry, emptyInventory, condition, skills, light, Field.size]
  omega

/-- The snapshot has an encoding if the name's length fits its field. -/
theorem isEncodable_snapshot
    {name : Bytes}
    (short : name.length ≤ 65535) :
    Packet.IsEncodable (snapshot name) := by
  have ofTile (floor column row : Nat) : Packet.IsEncodable (tile name floor column row) := by
    simp only [tile, occupant]
    split
    next onPlayer =>
      simp [creature, Field.IsEncodable, short]
    next elsewhere =>
      split <;> simp [Field.IsEncodable]
  simp only [snapshot, mapTiles, floorTiles, Packet.isEncodable_append, Packet.isEncodable_flatMap]
  refine ⟨⟨⟨⟨⟨?_, fun _ _ _ _ _ _ => ofTile _ _ _⟩, ?_⟩, ?_⟩, ?_⟩, ?_⟩ <;>
    simp [entry, emptyInventory, condition, skills, light, Field.IsEncodable]

/--
A packet for each name holds the name as a string, once, between fields that
never change, of which those in front take the given number of bytes.
-/
def SurroundsName (offset : Nat) (packetFor : Bytes → Packet) : Prop :=
  ∃ front back : Packet,
    Packet.size front = offset ∧ ∀ name, packetFor name = front ++ .string name :: back

theorem surroundsName_creature : SurroundsName 10 creature :=
  ⟨[.uint16 unknownCreature, .uint32 0, .uint32 playerCreature], _, rfl, fun _ => rfl⟩

namespace SurroundsName

variable {offset : Nat} {packetFor : Bytes → Packet} (surrounds : SurroundsName offset packetFor)

include surrounds

theorem append_left (fixed : Packet) :
    SurroundsName (Packet.size fixed + offset) fun name => fixed ++ packetFor name := by
  obtain ⟨front, back, size_eq, split⟩ := surrounds
  refine ⟨fixed ++ front, back, ?_, fun name => by simp only [split, List.append_assoc]⟩
  rw [Packet.size_append, size_eq]

theorem append_right (fixed : Packet) :
    SurroundsName offset fun name => packetFor name ++ fixed := by
  obtain ⟨front, back, size_eq, split⟩ := surrounds
  exact ⟨front, back ++ fixed, size_eq, fun name => by
    simp only [split, List.append_assoc, List.cons_append]⟩

end SurroundsName

/--
If the packet of just one item holds the name, then so do the packets of all items in a row,
behind the packets of the items before it.
-/
theorem SurroundsName.flatMap
    {offset taken : Nat}
    {items before after : List α}
    {item : α}
    (packetFor : Bytes → α → Packet)
    (surrounds : SurroundsName offset fun name => packetFor name item)
    (items_eq : items = before ++ item :: after)
    (taken_eq : Packet.size (before.flatMap (packetFor [])) = taken)
    (distinct : items.Nodup)
    (fixed : ∀ other, other ≠ item → ∀ name, packetFor name other = packetFor [] other) :
    SurroundsName (taken + offset) fun name => items.flatMap (packetFor name) := by
  subst items_eq
  have unlike : item ∉ before ++ after := (List.nodup_cons.mp (List.nodup_middle.mp distinct)).1
  have same (others : List α) (within : others ⊆ before ++ after) (name : Bytes) :
      others.flatMap (packetFor name) = others.flatMap (packetFor []) :=
    List.flatMap_congr fun other inOthers =>
      fixed other (fun isItem => unlike (within (isItem ▸ inOthers))) name
  obtain ⟨front, back, size_eq, split⟩ := surrounds
  refine ⟨before.flatMap (packetFor []) ++ front, back ++ after.flatMap (packetFor []), ?_, ?_⟩
  · rw [Packet.size_append, size_eq, taken_eq]
  intro name
  calc
    (before ++ item :: after).flatMap (packetFor name)
        = before.flatMap (packetFor name) ++
            (packetFor name item ++ after.flatMap (packetFor name)) := by
          rw [List.flatMap_append, List.flatMap_cons]
    _ = before.flatMap (packetFor []) ++
          ((front ++ .string name :: back) ++ after.flatMap (packetFor [])) := by
        rw [same before (List.subset_append_left _ _), same after (List.subset_append_right _ _),
          ← split]
    _ = before.flatMap (packetFor []) ++ front ++
          .string name :: (back ++ after.flatMap (packetFor [])) := by
        simp only [List.append_assoc, List.cons_append]

/-- Only the player's tile depends on the name. -/
theorem tile_elsewhere
    {floor column row : Nat}
    (elsewhere :
      ¬(floor = groundFloor.toNat ∧ row = playerRow ∧ column = playerColumn))
    (name : Bytes) :
    tile name floor column row = tile [] floor column row := by
  simp only [tile, occupant, if_neg elsewhere]

/-- In front of the name on the map there are 118 tiles, the player's ground and ten bytes. -/
theorem surroundsName_mapTiles : SurroundsName 720 mapTiles := by
  -- From the player's tile outwards: its column, the ground floor, all floors.
  have onPlayer :
      SurroundsName 12 fun name => tile name groundFloor.toNat playerColumn playerRow :=
    (surroundsName_creature.append_right [.uint16 tileMark]).append_left [.uint16 grass]
  have rows : List.range mapHeight = List.range 6 ++ playerRow :: [7, 8, 9, 10, 11, 12, 13] := rfl
  have north :
      Packet.size ((List.range 6).flatMap (tile [] groundFloor.toNat playerColumn)) = 36 := by
    simp only [Packet.size_flatMap, size_tile]
    decide
  have inColumn :
      SurroundsName 48 fun name =>
        (List.range mapHeight).flatMap (tile name groundFloor.toNat playerColumn) :=
    SurroundsName.flatMap (fun name row => tile name groundFloor.toNat playerColumn row)
      onPlayer rows north List.nodup_range
      fun row otherRow => tile_elsewhere fun same => otherRow same.2.1
  have columns :
      List.range mapWidth =
        List.range 8 ++ playerColumn :: [9, 10, 11, 12, 13, 14, 15, 16, 17] := rfl
  have west :
      Packet.size
          ((List.range 8).flatMap fun column =>
            (List.range mapHeight).flatMap (tile [] groundFloor.toNat column)) =
        672 := by
    simp only [Packet.size_flatMap, size_tile]
    decide
  have onFloor : SurroundsName 720 fun name => floorTiles name groundFloor.toNat :=
    SurroundsName.flatMap
      (fun name column => (List.range mapHeight).flatMap (tile name groundFloor.toNat column))
      inColumn columns west List.nodup_range
      fun column otherColumn name =>
        List.flatMap_congr fun row _ =>
          tile_elsewhere (fun same => otherColumn same.2.2) name
  have floors : [7, 6, 5, 4, 3, 2, 1, 0] = [] ++ groundFloor.toNat :: [6, 5, 4, 3, 2, 1, 0] := rfl
  exact SurroundsName.flatMap floorTiles onFloor floors rfl (by decide)
    fun floor otherFloor name =>
      List.flatMap_congr fun column _ =>
        List.flatMap_congr fun row _ =>
          tile_elsewhere (fun same => otherFloor same.1) name

theorem surroundsName_snapshot : SurroundsName 734 snapshot :=
  ((((surroundsName_mapTiles.append_left entry).append_right emptyInventory).append_right
    condition).append_right skills).append_right light

/-- A name behind its length, between other bytes. -/
def nameBetween (front back name : Bytes) : Bytes :=
  front ++ ((Bytes.ofUInt16 (UInt16.ofNat name.length) ++ name) ++ back)

/-- The bytes in front of the name and behind it are the same for all names. -/
theorem exists_encoding?_snapshot :
    ∃ front back : Bytes,
      front.length = 734 ∧
        ∀ name : Bytes,
          name.length ≤ 65535 →
          (snapshot name).encoding? = some (nameBetween front back name) := by
  obtain ⟨front, back, size_eq, split⟩ := surroundsName_snapshot
  have encodable (name : Bytes) (short : name.length ≤ 65535) :
      Packet.IsEncodable (front ++ .string name :: back) :=
    split name ▸ isEncodable_snapshot short
  have ofNone := (Packet.isEncodable_append _ _).mp (encodable [] (Nat.zero_le _))
  obtain ⟨frontBytes, frontEncoded, length_eq⟩ := Packet.encoding?_of_isEncodable ofNone.1
  obtain ⟨backBytes, backEncoded, _⟩ :=
    Packet.encoding?_of_isEncodable ((Packet.isEncodable_cons _ _).mp ofNone.2).2
  refine ⟨frontBytes, backBytes, length_eq.trans size_eq, fun name short => ?_⟩
  rw [split]
  apply Packet.encoding?_append frontEncoded
  simp [Packet.encoding?, Field.encoding?, short, backEncoded]

/--
What a client reads on entering the world: the number of its creature, its place and the
corner of the map in front, the name behind its length on the map, and no byte too many.
-/
structure Shows (name bytes : Bytes) : Prop where
  length_eq : bytes.length = 12200 + name.length
  entry_eq : bytes.take 14 = [0x0A, 0, 0, 0, 0x10, 0x32, 0, 0, 0x64, 100, 0, 100, 0, 7]
  name_eq : (bytes.drop 734).take (2 + name.length) = UInt8.ofNat name.length :: 0 :: name

/-- The snapshot for a short name shows the world. -/
theorem shows_of_encoding?
    {name bytes : Bytes}
    (short : name.length < 256)
    (encoded : (snapshot name).encoding? = some bytes) :
    Shows name bytes where
  length_eq := by
    rw [(Packet.isEncodable_of_encoding? encoded).2, size_snapshot]
  entry_eq := by
    simp only [snapshot, List.append_assoc] at encoded
    obtain ⟨front, back, frontEncoded, _, rfl⟩ := Packet.encoding?_append_eq_some encoded
    cases frontEncoded
    rfl
  name_eq := by
    obtain ⟨front, back, length_eq, spelled⟩ := exists_encoding?_snapshot
    rw [spelled name (by omega)] at encoded
    cases encoded
    rw [nameBetween, Bytes.ofUInt16_of_lt short, List.drop_left' length_eq]
    exact List.take_left' List.length_append

end Gatehouse.World
