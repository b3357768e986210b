import Gatehouse.Checksum

namespace Gatehouse.Checksum

/-!
# The checksum in words

The running sums as a machine keeps them, in one word of 32 bits each. Bytes
come in runs of 5552, after each of which the sums are reduced. A run is summed
in blocks of sixteen bytes, four bytes to a step, and the rest of it byte by
byte. Every addition is checked.
-/

/-- Bytes in a block of a run. -/
def blockLength : Nat := 16

/-- The two running sums, in a word each. -/
structure WordSums where
  low : UInt32
  high : UInt32
deriving DecidableEq, Repr

namespace WordSums

/-- The sum of two words, or an overflow if it takes more than 32 bits. -/
def addWords (left right : UInt32) : Checked UInt32 :=
  if left.toNat + right.toNat < UInt32.size then .ok (left + right) else .error .overflow

/-- The sums before any byte. -/
def start : WordSums where
  low := 1
  high := 0

/-- The sums packed in a 32-bit checksum, which need not be reduced. -/
def ofValue (value : UInt32) : WordSums where
  low := value &&& 0xFFFF
  high := value >>> 16

/-- Add one byte. -/
def addByte (sums : WordSums) (byte : UInt8) : Checked WordSums := do
  let low ← addWords sums.low byte.toUInt32
  let high ← addWords sums.high low
  return { low := low, high := high }

/-- Add the bytes of a block, four to a step; fewer than four at its end are left out. -/
def addBlock (sums : WordSums) : Bytes → Checked WordSums
  | first :: second :: third :: fourth :: rest => do
      let sums ← sums.addByte first
      let sums ← sums.addByte second
      let sums ← sums.addByte third
      let sums ← sums.addByte fourth
      addBlock sums rest
  | _ => .ok sums

/-- Add the given number of blocks at the front of a run, and then the bytes behind them. -/
def addBlocks : (count : Nat) → WordSums → Bytes → Checked WordSums
  | 0, sums, rest => rest.foldlM addByte sums
  | count + 1, sums, run => do
      addBlocks count (← sums.addBlock (run.take blockLength)) (run.drop blockLength)

/-- Add a run: all its whole blocks, and then the rest of it. -/
def addRun (sums : WordSums) (run : Bytes) : Checked WordSums :=
  addBlocks (run.length / blockLength) sums run

/-- Both sums modulo 65521. -/
def reduce (sums : WordSums) : WordSums where
  low := sums.low % UInt32.ofNat modulus
  high := sums.high % UInt32.ofNat modulus

/-- Add a chunk of bytes, run by run; an empty chunk leaves even unreduced sums as they are. -/
def update (sums : WordSums) (chunk : Bytes) : Checked WordSums :=
  if chunk = [] then
    .ok sums
  else do
    let summed ← sums.addRun (chunk.take runLength)
    update summed.reduce (chunk.drop runLength)
termination_by chunk.length
decreasing_by
  rename_i nonempty
  have positive := List.length_pos_iff.mpr nonempty
  simp only [List.length_drop, runLength]
  omega

/-- The checksum: `high` in the upper half, `low` in the lower one. -/
def finish (sums : WordSums) : UInt32 :=
  sums.low ||| (sums.high <<< 16)

end WordSums

end Gatehouse.Checksum
