import Gatehouse.Checksum
import Mathlib.Tactic.Ring

namespace Gatehouse.Checksum

/-!
# The running sums fit 32 bits

Summing with a check of every addition never fails. What the sums can at most
come to, if all bytes left of a run are 255, only goes down as bytes are added,
and is below 2³² when a run starts with sums below 2¹⁶, reduced or not.
-/

/-- One more than the largest number of 32 bits. -/
def wordLimit : Nat := 4294967296

namespace Sums

/-- Add one byte, if both sums keep to 32 bits. -/
def step? (sums : Sums) (byte : UInt8) : Checked Sums :=
  let next := sums.step byte
  if next.low < wordLimit ∧ next.high < wordLimit then .ok next else .error .overflow

/-- Add bytes and check every addition. -/
def absorbRuns? : (room : Nat) → Sums → Bytes → Checked Sums
  | _, sums, [] => .ok sums.reduce
  | 0, sums, byte :: rest => do absorbRuns? (runLength - 1) (← sums.reduce.step? byte) rest
  | room + 1, sums, byte :: rest => do absorbRuns? room (← sums.step? byte) rest

/-- Add a chunk of bytes and check every addition. -/
def absorb? (sums : Sums) : Bytes → Checked Sums
  | [] => .ok sums
  | byte :: rest => absorbRuns? runLength sums (byte :: rest)

/-- What the second sum comes to if bytes of 255 fill the room. -/
def worst : (room : Nat) → Sums → Nat
  | 0, sums => sums.high
  | room + 1, sums => worst room (sums.step 255)

theorem two_mul_worst (room : Nat) (sums : Sums) :
    2 * worst room sums = 2 * sums.high + 2 * room * sums.low + 255 * room * (room + 1) := by
  induction room generalizing sums with
  | zero =>
      simp [worst]
  | succ room inductionHypothesis =>
      have byte : (255 : UInt8).toNat = 255 := rfl
      rw [worst, inductionHypothesis]
      simp only [step, byte]
      ring

/-- Larger sums come to no less. -/
theorem worst_mono
    {room : Nat}
    {sums other : Sums}
    (low_le : sums.low ≤ other.low)
    (high_le : sums.high ≤ other.high) :
    worst room sums ≤ worst room other := by
  have ofSums := two_mul_worst room sums
  have ofOther := two_mul_worst room other
  have product_le : 2 * room * sums.low ≤ 2 * room * other.low := Nat.mul_le_mul_left _ low_le
  omega

theorem high_le_worst (room : Nat) (sums : Sums) : sums.high ≤ worst room sums := by
  have doubled := two_mul_worst room sums
  omega

/-- Adding a byte comes to no more than adding one of 255. -/
theorem worst_step (room : Nat) (sums : Sums) (byte : UInt8) :
    worst room (sums.step byte) ≤ worst (room + 1) sums := by
  have byte_le : byte.toNat ≤ (255 : UInt8).toNat := Nat.le_of_lt_succ byte.toNat_lt
  apply worst_mono
  · exact Nat.add_le_add_left byte_le _
  · exact Nat.add_le_add_left (Nat.add_le_add_left byte_le _) _

theorem step?_eq
    {room : Nat}
    {sums : Sums}
    (fits : worst (room + 1) sums < wordLimit)
    (byte : UInt8) :
    sums.step? byte = .ok (sums.step byte) := by
  have high_lt : (sums.step byte).high < wordLimit :=
    Nat.lt_of_le_of_lt (Nat.le_trans (high_le_worst room _) (worst_step room sums byte)) fits
  have low_le : (sums.step byte).low ≤ (sums.step byte).high := Nat.le_add_left _ _
  rw [step?, if_pos ⟨Nat.lt_of_le_of_lt low_le high_lt, high_lt⟩]

/-- A run that starts with sums in halves of a word fits, be they reduced or not. -/
theorem worst_of_halves
    {sums : Sums}
    (low_lt : sums.low < 65536)
    (high_lt : sums.high < 65536) :
    worst runLength sums < wordLimit := by
  have most := two_mul_worst runLength { low := 65535, high := 65535 }
  have within : worst runLength sums ≤ worst runLength { low := 65535, high := 65535 } :=
    worst_mono (Nat.le_of_lt_succ low_lt) (Nat.le_of_lt_succ high_lt)
  simp only [runLength, wordLimit] at most within ⊢
  omega

theorem reduce_lt (sums : Sums) : sums.reduce.low < 65536 ∧ sums.reduce.high < 65536 :=
  ⟨Nat.lt_trans (Nat.mod_lt _ (by decide)) (by decide),
    Nat.lt_trans (Nat.mod_lt _ (by decide)) (by decide)⟩

theorem worst_reduce (sums : Sums) : worst runLength sums.reduce < wordLimit :=
  worst_of_halves (reduce_lt sums).1 (reduce_lt sums).2

theorem absorbRuns?_eq
    {room : Nat}
    {sums : Sums}
    (fits : worst room sums < wordLimit)
    (bytes : Bytes) :
    absorbRuns? room sums bytes = .ok (absorbRuns room sums bytes) := by
  induction bytes generalizing room sums with
  | nil =>
      simp only [absorbRuns?, absorbRuns]
  | cons byte rest inductionHypothesis =>
      cases room with
      | zero =>
          have runFits : worst (runLength - 1 + 1) sums.reduce < wordLimit := worst_reduce sums
          simp only [absorbRuns?, absorbRuns, step?_eq runFits, bind, Except.bind]
          exact inductionHypothesis (Nat.lt_of_le_of_lt (worst_step _ _ byte) runFits)
      | succ room =>
          simp only [absorbRuns?, absorbRuns, step?_eq fits, bind, Except.bind]
          exact inductionHypothesis (Nat.lt_of_le_of_lt (worst_step _ _ byte) fits)

/-- No addition of a checksum leaves 32 bits. -/
theorem absorb?_start (bytes : Bytes) : start.absorb? bytes = .ok (start.absorb bytes) := by
  cases bytes with
  | nil =>
      rfl
  | cons byte rest =>
      have reduced : start = start.reduce := rfl
      refine absorbRuns?_eq ?_ (byte :: rest)
      rw [reduced]
      exact worst_reduce start

end Sums

end Gatehouse.Checksum
