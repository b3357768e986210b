import Mathlib.Data.Nat.Bitwise
import Mathlib.RingTheory.Int.Basic
import Mathlib.Tactic.NormNum.Prime
import Mathlib.Tactic.Ring
import Gatehouse.Proofs.Checksum

namespace Gatehouse.Checksum

/-!
# Changes that a checksum detects

The checksum is the pair of residues of the plain sums, taken byte by byte
without reductions. What a change of bytes adds to the plain sums is followed
through the bytes behind it: the low sum keeps the difference, and the high sum
gains it once more with every byte. Since 65521 is a prime, no change of one
byte goes undetected, and none of two bytes less than 65521 positions apart.
-/

theorem prime_modulus : modulus.Prime := by
  norm_num [modulus]

namespace Sums

theorem reduce_foldl_step_reduce (sums : Sums) (bytes : Bytes) :
    (bytes.foldl step sums.reduce).reduce = (bytes.foldl step sums).reduce := by
  have low_of_reduce (sums : Sums) (byte : UInt8) :
      (sums.reduce.step byte).low % modulus = (sums.step byte).low % modulus :=
    Nat.mod_add_mod _ _ _
  have step_reduce (sums : Sums) (byte : UInt8) :
      (sums.reduce.step byte).reduce = (sums.step byte).reduce := by
    have high_eq :
        (sums.reduce.step byte).high % modulus = (sums.step byte).high % modulus := by
      have added := low_of_reduce sums byte
      simp only [step, reduce] at added ⊢
      rw [Nat.add_mod, added, Nat.mod_mod, ← Nat.add_mod]
    rw [reduce, low_of_reduce, high_eq, reduce]
  induction bytes generalizing sums with
  | nil =>
      simp only [List.foldl_nil, reduce, Nat.mod_mod]
  | cons byte rest inductionHypothesis =>
      rw [List.foldl_cons, ← inductionHypothesis, step_reduce, inductionHypothesis,
        List.foldl_cons]

/-- Reducing between the runs changes nothing about the residues. -/
theorem absorbRuns_eq (room : Nat) (sums : Sums) (bytes : Bytes) :
    absorbRuns room sums bytes = (bytes.foldl step sums).reduce := by
  induction bytes generalizing room sums with
  | nil =>
      cases room <;> rfl
  | cons byte rest inductionHypothesis =>
      cases room with
      | zero =>
          rw [absorbRuns, inductionHypothesis]
          exact reduce_foldl_step_reduce sums (byte :: rest)
      | succ room =>
          rw [absorbRuns, inductionHypothesis]
          rfl

/-- A checksum packs the residues of the plain sums. -/
theorem absorb_start_eq (bytes : Bytes) :
    start.absorb bytes = (bytes.foldl step start).reduce := by
  cases bytes with
  | nil =>
      rfl
  | cons byte rest =>
      exact absorbRuns_eq runLength start (byte :: rest)

/-- Sums below 2¹⁶ take a half of the checksum each. -/
theorem toNat_combined
    {sums : Sums}
    (low_lt : sums.low < 65536)
    (high_lt : sums.high < 65536) :
    sums.combined.toNat = sums.high * 65536 + sums.low := by
  have packed : sums.low ||| sums.high <<< 16 = sums.high * 65536 + sums.low := by
    rw [Nat.lor_comm, ← Nat.shiftLeft_add_eq_or_of_lt low_lt, Nat.shiftLeft_eq]
  simp only [combined, packed]
  apply UInt32.toNat_ofNat_of_lt'
  simp only [UInt32.size]
  omega

/-- Residues of sums are read back from the checksum that packs them. -/
theorem reduce_eq_of_combined_eq
    {sums other : Sums}
    (same : sums.reduce.combined = other.reduce.combined) :
    sums.reduce = other.reduce := by
  have packed := congrArg UInt32.toNat same
  obtain ⟨low_first, high_first⟩ := reduce_lt sums
  obtain ⟨low_second, high_second⟩ := reduce_lt other
  rw [toNat_combined low_first high_first, toNat_combined low_second high_second] at packed
  rw [reduce, reduce, mk.injEq]
  simp only [reduce] at packed low_first low_second
  omega

/-- By how much other sums exceed the given ones. -/
structure Gap (low high : Int) (sums other : Sums) : Prop where
  low_eq : (other.low : Int) = sums.low + low
  high_eq : (other.high : Int) = sums.high + high

/-- By how much a byte exceeds the one that it replaces. -/
def excess (new old : UInt8) : Int :=
  new.toNat - old.toNat

/-- A byte that replaces another one exceeds it by less than 256, in either direction. -/
theorem excess_bounds
    {new old : UInt8}
    (changed : new ≠ old) :
    excess new old ≠ 0 ∧ -255 ≤ excess new old ∧ excess new old ≤ 255 := by
  have new_lt : new.toNat < 256 := new.toNat_lt
  have old_lt : old.toNat < 256 := old.toNat_lt
  have differs : new.toNat ≠ old.toNat := fun same => changed (UInt8.toNat_inj.mp same)
  unfold excess
  omega

namespace Gap

variable {low high : Int} {sums other : Sums}

theorem refl (sums : Sums) : Gap 0 0 sums sums :=
  ⟨(Int.add_zero _).symm, (Int.add_zero _).symm⟩

/-- Adding a byte on the one side and its replacement on the other. -/
theorem step (gap : Gap low high sums other) (new old : UInt8) :
    Gap (low + excess new old) (high + (low + excess new old)) (sums.step old)
      (other.step new) := by
  obtain ⟨low_eq, high_eq⟩ := gap
  constructor
  · simp only [Sums.step, excess]
    push_cast
    omega
  · simp only [Sums.step, excess]
    push_cast
    omega

/-- Adding the same bytes on both sides. -/
theorem foldl (gap : Gap low high sums other) (bytes : Bytes) :
    Gap low (high + bytes.length * low) (bytes.foldl Sums.step sums)
      (bytes.foldl Sums.step other) := by
  induction bytes generalizing high sums other with
  | nil =>
      simpa using gap
  | cons byte rest inductionHypothesis =>
      have stepped := gap.step byte byte
      have unchanged : excess byte byte = 0 := Int.sub_self _
      rw [unchanged, Int.add_zero] at stepped
      have passed := inductionHypothesis stepped
      have total :
          high + low + rest.length * low = high + (byte :: rest).length * low := by
        rw [List.length_cons]
        push_cast
        ring
      rwa [total] at passed

/-- Sums with the same residues exceed each other by multiples of the modulus. -/
theorem dvd (gap : Gap low high sums other) (same : other.reduce = sums.reduce) :
    (modulus : Int) ∣ low ∧ (modulus : Int) ∣ high := by
  obtain ⟨low_eq, high_eq⟩ := gap
  simp only [reduce, mk.injEq, modulus] at same
  simp only [modulus]
  omega

end Gap

/-- Replacing one byte adds its excess to the low sum. -/
theorem gap_of_change (front back : Bytes) (new old : UInt8) :
    ∃ high,
      Gap (excess new old) high ((front ++ old :: back).foldl step start)
        ((front ++ new :: back).foldl step start) := by
  have changed := ((Gap.refl (front.foldl step start)).step new old).foldl back
  rw [Int.zero_add] at changed
  simp only [List.foldl_append, List.foldl_cons]
  exact ⟨_, changed⟩

/--
Replacing two bytes adds both excesses to the low sum; to the high sum the first
excess once for each position between them, and a multiple of what the low sum gained.
-/
theorem gap_of_two_changes
    (front middle back : Bytes)
    (firstNew firstOld secondNew secondOld : UInt8) :
    Gap (excess firstNew firstOld + excess secondNew secondOld)
      ((middle.length + 1) * excess firstNew firstOld +
        (back.length + 1) * (excess firstNew firstOld + excess secondNew secondOld))
      ((front ++ firstOld :: (middle ++ secondOld :: back)).foldl step start)
      ((front ++ firstNew :: (middle ++ secondNew :: back)).foldl step start) := by
  have first := ((Gap.refl (front.foldl step start)).step firstNew firstOld).foldl middle
  have second := (first.step secondNew secondOld).foldl back
  simp only [List.foldl_append, List.foldl_cons]
  convert second using 1 <;> ring

end Sums

/-- Equal checksums have equal residues. -/
theorem reduce_eq_of_ofBytes_eq
    {bytes other : Bytes}
    (same : ofBytes bytes = ofBytes other) :
    (bytes.foldl Sums.step Sums.start).reduce = (other.foldl Sums.step Sums.start).reduce := by
  rw [ofBytes, ofBytes, Sums.absorb_start_eq, Sums.absorb_start_eq] at same
  exact Sums.reduce_eq_of_combined_eq same

/-- A byte string around one of its bytes, which can be replaced there. -/
theorem exists_around
    {bytes : Bytes}
    {position : Nat}
    (inside : position < bytes.length) :
    ∃ front back,
      front.length = position ∧
        bytes = front ++ bytes[position] :: back ∧
        ∀ byte, bytes.set position byte = front ++ byte :: back := by
  refine ⟨bytes.take position, bytes.drop (position + 1), ?_, ?_, ?_⟩
  · rw [List.length_take, Nat.min_eq_left inside.le]
  · rw [← List.drop_eq_getElem_cons inside, List.take_append_drop]
  · intro byte
    rw [List.set_eq_take_append_cons_drop, if_pos inside]

/-- A byte string around two of its bytes, which can both be replaced there. -/
theorem exists_around_two
    {bytes : Bytes}
    {first second : Nat}
    (ordered : first < second)
    (inside : second < bytes.length) :
    ∃ front middle back,
      middle.length + 1 = second - first ∧
        bytes = front ++ bytes[first] :: (middle ++ bytes[second] :: back) ∧
        ∀ firstByte secondByte,
          (bytes.set first firstByte).set second secondByte =
            front ++ firstByte :: (middle ++ secondByte :: back) := by
  obtain ⟨front, rest, length_front, bytes_eq, bytes_set⟩ :=
    exists_around (Nat.lt_trans ordered inside)
  have length_eq : bytes.length = front.length + (rest.length + 1) := by
    rw [bytes_eq, List.length_append, List.length_cons]
  have behind : second - front.length = second - first - 1 + 1 := by
    omega
  have insideRest : second - first - 1 < rest.length := by
    omega
  have found : bytes[second]? = rest[second - first - 1]? := by
    rw [congrArg (·[second]?) bytes_eq, List.getElem?_append_right (by omega), behind,
      List.getElem?_cons_succ]
  rw [List.getElem?_eq_getElem inside, List.getElem?_eq_getElem insideRest,
    Option.some.injEq] at found
  obtain ⟨middle, back, length_middle, rest_eq, rest_set⟩ := exists_around insideRest
  refine ⟨front, middle, back, by omega, ?_, ?_⟩
  · rw [found, ← rest_eq]
    exact bytes_eq
  · intro firstByte secondByte
    rw [bytes_set, List.set_append_right _ _ (by omega), behind, List.set_cons_succ, rest_set]

/-- Changing one byte changes the checksum. -/
theorem ofBytes_set_ne
    {bytes : Bytes}
    {position : Nat}
    {byte : UInt8}
    (inside : position < bytes.length)
    (changed : byte ≠ bytes[position]) :
    ofBytes (bytes.set position byte) ≠ ofBytes bytes := by
  intro same
  have residues := reduce_eq_of_ofBytes_eq same
  obtain ⟨front, back, _, bytes_eq, bytes_set⟩ := exists_around inside
  obtain ⟨high, gap⟩ := Sums.gap_of_change front back byte bytes[position]
  rw [← bytes_eq, ← bytes_set] at gap
  have divides := (gap.dvd residues).1
  have bounds := Sums.excess_bounds changed
  simp only [modulus] at divides
  omega

/-- Changing two bytes less than 65521 positions apart changes the checksum. -/
theorem ofBytes_set_set_ne
    {bytes : Bytes}
    {first second : Nat}
    {firstByte secondByte : UInt8}
    (ordered : first < second)
    (inside : second < bytes.length)
    (near : second - first < modulus)
    (firstChanged : firstByte ≠ bytes[first])
    (secondChanged : secondByte ≠ bytes[second]) :
    ofBytes ((bytes.set first firstByte).set second secondByte) ≠ ofBytes bytes := by
  intro same
  have residues := reduce_eq_of_ofBytes_eq same
  obtain ⟨front, middle, back, distance, bytes_eq, bytes_set⟩ := exists_around_two ordered inside
  have gap :=
    Sums.gap_of_two_changes front middle back firstByte bytes[first] secondByte bytes[second]
  rw [← bytes_eq, ← bytes_set] at gap
  obtain ⟨dividesLow, dividesHigh⟩ := gap.dvd residues
  have firstBounds := Sums.excess_bounds firstChanged
  have secondBounds := Sums.excess_bounds secondChanged
  generalize Sums.excess firstByte bytes[first] = firstExcess at *
  generalize Sums.excess secondByte bytes[second] = secondExcess at *
  -- The low sum gains less than the modulus, so the changes cancel there.
  have cancelled : firstExcess + secondExcess = 0 := by
    simp only [modulus] at dividesLow
    omega
  rw [cancelled, Int.mul_zero, Int.add_zero] at dividesHigh
  rcases Int.Prime.dvd_mul' prime_modulus dividesHigh with ofDistance | ofExcess
  · simp only [modulus] at ofDistance near
    omega
  · simp only [modulus] at ofExcess
    omega

end Gatehouse.Checksum
