import Gatehouse.Storage.Arena

namespace Gatehouse

/-!
# The block pool

Blocks of one size, carved from an arena on demand and kept when they come
back. The last block released is the first one acquired again, with the
contents it was released with.
-/

/-- An arena, the blocks carved from it that came back, and how many were carved. -/
structure BlockPool where
  arena : Arena
  blockSize : Nat
  /-- Blocks that came back, the last one first. -/
  free : List Block
  /-- Blocks carved so far. -/
  allocated : Nat
deriving DecidableEq, Repr

namespace BlockPool

/-- A pool that has carved nothing yet. -/
def ofArena (arena : Arena) (blockSize : Nat) : BlockPool where
  arena := arena
  blockSize := blockSize
  free := []
  allocated := 0

/-- Blocks that can be acquired without carving. -/
def available (pool : BlockPool) : Nat :=
  pool.free.length

/-- Take a block that came back, or carve one. -/
def acquire (pool : BlockPool) : Checked (Block × BlockPool) :=
  match pool.free with
  | block :: free => .ok (block, { pool with free := free })
  | [] => do
      let (block, arena) ← pool.arena.carve pool.blockSize Arena.wordAlignment
      return (block, { pool with arena := arena, allocated := pool.allocated + 1 })

/-- Give a block back. -/
def release (pool : BlockPool) (block : Block) : BlockPool :=
  { pool with free := block :: pool.free }

end BlockPool

end Gatehouse
