import Gatehouse.Fault

namespace Gatehouse

/-!
# The index pool

Hands out the indices below a fixed capacity. An index is taken from its
acquisition to its release. Free indices form a stack: the last one released is
the first one acquired again, and at the start the lowest index is on top.
-/

/-- Which indices are taken, and the free ones in the order of their acquisition. -/
structure IndexPool where
  taken : List Bool
  free : List Nat
deriving DecidableEq, Repr

namespace IndexPool

/-- Bytes of an index. -/
def indexSize : Nat := 8

/--
A pool in which no index is taken; a pool of nothing, or of more indices than
can be listed, stops the program.
-/
def ofCapacity (capacity : Nat) : Checked IndexPool := do
  if capacity = 0 then
    throw .emptyTable
  Size.checkTable capacity indexSize
  return { taken := List.replicate capacity false, free := List.range capacity }

/-- The number of indices. -/
def capacity (pool : IndexPool) : Nat :=
  pool.taken.length

/-- The number of free indices. -/
def spareCount (pool : IndexPool) : Nat :=
  pool.free.length

/-- The number of taken indices. -/
def takenCount (pool : IndexPool) : Nat :=
  pool.capacity - pool.spareCount

/-- Whether an index is taken; an index beyond the capacity is not. -/
def isTaken (pool : IndexPool) (index : Nat) : Bool :=
  (pool.taken[index]?).getD false

/-- Take the top free index, if there is one. -/
def acquire? (pool : IndexPool) : Option (Nat × IndexPool) :=
  match pool.free with
  | [] => none
  | index :: free => some (index, { taken := pool.taken.set index true, free := free })

/-- Free an index and put it on top; answers whether it was taken. -/
def release (pool : IndexPool) (index : Nat) : Bool × IndexPool :=
  if pool.isTaken index then
    (true, { taken := pool.taken.set index false, free := index :: pool.free })
  else
    (false, pool)

/-- The taken indices in ascending order. -/
def takenIndices (pool : IndexPool) : List Nat :=
  pool.taken.zipIdx.filterMap fun (isTaken, index) => if isTaken then some index else none

end IndexPool

end Gatehouse
