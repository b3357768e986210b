import Gatehouse.Bytes

namespace Gatehouse

/-!
# The arena

All long-lived buffers are carved, one after another, from one reservation made
at the start. Memory is committed in granules as carving reaches it, is zero
when it is carved, and never returns to the arena: whoever holds a block may
reuse it.
-/

/-- A piece of memory: where it starts and what it holds. -/
structure Block where
  address : Nat
  bytes : Bytes
deriving DecidableEq, Repr

namespace Block

/-- Bytes in the block. -/
def length (block : Block) : Nat :=
  block.bytes.length

/-- Overwrite every byte. -/
def fill (block : Block) (byte : UInt8) : Block :=
  { block with bytes := List.replicate block.length byte }

/-- Overwrite every byte with zero. -/
def wipe (block : Block) : Block :=
  block.fill 0

/-- What a log may show of a block, which may hold credentials. -/
def redacted (block : Block) : String :=
  s!"ArenaBlock \x7b len: {block.length} \x7d"

end Block

/-- Why a reservation or an allocation is refused. -/
inductive ArenaError where
  /-- The block does not fit what is left. -/
  | exhausted (requested remaining : Nat)
  /-- The alignment is not a power of two. -/
  | invalidAlignment (alignment : Nat)
  /-- The reservation or its granule is empty. -/
  | invalidReservation (reserve granule : Nat)
deriving DecidableEq, Repr

/-- The message for a caller. -/
def ArenaError.message : ArenaError → String
  | .exhausted requested remaining =>
      s!"arena exhausted: requested {requested} bytes, {remaining} bytes left in the reservation"
  | .invalidAlignment alignment => s!"invalid alignment: {alignment} is not a power of two"
  | .invalidReservation reserve granule =>
      s!"invalid reservation: reserve {reserve} bytes with granule {granule} bytes"

/-- A reservation that is being carved up. -/
structure Arena where
  /-- The address of the first byte. -/
  base : Nat
  reserved : Nat
  granule : Nat
  committed : Nat
  /-- Bytes carved so far, with what was skipped to align them. -/
  used : Nat
deriving DecidableEq, Repr

namespace Arena

/-- The granule that granules are multiples of. -/
def pageSize : Nat := 4096

/-- The alignment of an array of several elements, at least. -/
def wordAlignment : Nat := 8

def isPowerOfTwo (number : Nat) : Bool :=
  0 < number && number &&& (number - 1) = 0

/--
Add `unit - 1` and clear the bits of `unit - 1`. For a power of two this is the
least multiple of `unit` that is not below `value`.
-/
def maskUp (value unit : Nat) : Checked Nat := do
  let sum ← Size.add value unit
  return (sum - 1) &&& (Size.max - (unit - 1))

/-- Make a reservation at an address. -/
def ofSizes (base reserveBytes granuleBytes : Nat) : Checked (Except ArenaError Arena) := do
  if reserveBytes = 0 ∨ granuleBytes = 0 then
    return .error (.invalidReservation reserveBytes granuleBytes)
  let granule ← maskUp granuleBytes pageSize
  let reserved ← maskUp reserveBytes granule
  Size.checkTable reserved 1
  return .ok { base := base, reserved := reserved, granule := granule, committed := 0, used := 0 }

/-- Bytes not yet carved. -/
def remaining (arena : Arena) : Nat :=
  arena.reserved - arena.used

/-- Commit whole granules until `needed` bytes beyond the carved ones are committed. -/
def commit (arena : Arena) (needed : Nat) : Nat :=
  let missing := needed - (arena.committed - arena.used)
  let granules := (missing + arena.granule - 1) / arena.granule
  min arena.reserved (arena.committed + arena.granule * granules)

/-- Find the place of a block of the given size and alignment: the address where it starts. -/
def place?
    (arena : Arena)
    (size alignment : Nat) :
    Checked (Except ArenaError (Nat × Arena)) := do
  if !isPowerOfTwo alignment then
    return .error (.invalidAlignment alignment)
  let address := arena.base + arena.used
  let aligned ← maskUp address alignment
  let padding := aligned - address
  let needed := padding + size
  if arena.remaining < needed then
    return .error (.exhausted (min needed Size.max) arena.remaining)
  return .ok (aligned,
    { arena with committed := arena.commit needed, used := arena.used + needed })

/-- Carve a block of the given size and alignment. -/
def carve?
    (arena : Arena)
    (size alignment : Nat) :
    Checked (Except ArenaError (Block × Arena)) := do
  match ← arena.place? size alignment with
  | .error error => return .error error
  | .ok (address, arena) => return .ok ({ address := address, bytes := Bytes.zeros size }, arena)

/-- Carve an array; several elements are aligned to words at least. -/
def carveArray?
    (arena : Arena)
    (count elementSize alignment : Nat) :
    Checked (Except ArenaError (Block × Arena)) :=
  if Size.limit ≤ count * elementSize then
    .ok (.error (.exhausted Size.max arena.remaining))
  else
    let alignment := if 1 < count then max alignment wordAlignment else alignment
    arena.carve? (count * elementSize) alignment

/-- What was asked of an arena that had to grant it. -/
def obtained (answer : Except ArenaError (α × Arena)) : Checked (α × Arena) :=
  match answer with
  | .ok granted => .ok granted
  | .error _ => .error .exhausted

/-- Carve a block that has to be obtained. -/
def carve (arena : Arena) (size alignment : Nat) : Checked (Block × Arena) := do
  obtained (← arena.carve? size alignment)

/-- Carve an array that has to be obtained. -/
def carveArray (arena : Arena) (count elementSize alignment : Nat) : Checked (Block × Arena) := do
  obtained (← arena.carveArray? count elementSize alignment)

/-- Find the places of `count` blocks of one size, aligned to words. -/
def placeMany (arena : Arena) (size : Nat) : (count : Nat) → Checked (List Nat × Arena)
  | 0 => .ok ([], arena)
  | count + 1 => do
      let (address, arena) ← obtained (← arena.place? size wordAlignment)
      let (addresses, arena) ← placeMany arena size count
      return (address :: addresses, arena)

/-- Carve `count` blocks of one size, aligned to words. -/
def carveMany (arena : Arena) (size count : Nat) : Checked (List Block × Arena) := do
  let (addresses, arena) ← arena.placeMany size count
  let zeros := Bytes.zeros size
  return (addresses.map fun address => { address := address, bytes := zeros }, arena)

/-- What a log shows of an arena. -/
def summary (arena : Arena) : String :=
  s!"Arena \x7b reserved: {arena.reserved}, granule: {arena.granule}, " ++
    s!"committed: {arena.committed}, used: {arena.used} \x7d"

end Arena

end Gatehouse
