import Gatehouse.Bytes

namespace Gatehouse

/-!
# The Adler-32 checksum

Two running sums over the bytes: `low` adds the bytes, `high` adds the values
that `low` takes. Both are wanted modulo 65521, but the remainder is taken only
once per run of 5552 bytes and once at the end, since the sums of such a run
stay below 2³² when they start below 2¹⁶.
-/

namespace Checksum

/-- The largest prime below 2¹⁶. -/
def modulus : Nat := 65521

/-- Bytes added between two reductions. -/
def runLength : Nat := 5552

/-- The two running sums. -/
structure Sums where
  low : Nat
  high : Nat
deriving DecidableEq, Repr

namespace Sums

/-- The sums before any byte. -/
def start : Sums where
  low := 1
  high := 0

/-- The sums packed in a 32-bit checksum, which need not be reduced. -/
def ofValue (value : UInt32) : Sums where
  low := value.toNat % 65536
  high := value.toNat / 65536

/-- Add one byte. -/
def step (sums : Sums) (byte : UInt8) : Sums :=
  let low := sums.low + byte.toNat
  { low := low, high := sums.high + low }

/-- Both sums modulo 65521. -/
def reduce (sums : Sums) : Sums where
  low := sums.low % modulus
  high := sums.high % modulus

/-- Add bytes, of which `room` more may come before the sums have to be reduced. -/
def absorbRuns : (room : Nat) → Sums → Bytes → Sums
  | _, sums, [] => sums.reduce
  | 0, sums, byte :: rest => absorbRuns (runLength - 1) (sums.reduce.step byte) rest
  | room + 1, sums, byte :: rest => absorbRuns room (sums.step byte) rest

/-- Add a chunk of bytes; an empty chunk leaves even unreduced sums as they are. -/
def absorb (sums : Sums) : Bytes → Sums
  | [] => sums
  | byte :: rest => absorbRuns runLength sums (byte :: rest)

/-- The checksum: `high` in the upper half, `low` in the lower one. -/
def combined (sums : Sums) : UInt32 :=
  UInt32.ofNat (sums.low ||| (sums.high <<< 16))

end Sums

/-- The checksum of a byte string. -/
def ofBytes (bytes : Bytes) : UInt32 :=
  (Sums.start.absorb bytes).combined

end Checksum

end Gatehouse
