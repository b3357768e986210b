import Mathlib.Algebra.Ring.Nat
import Gatehouse.Storage.Arena

namespace Gatehouse.Arena

/-!
# Rounding by masks

Clearing the low bits of a size: what is cleared and what stays add up to the
size, so the result is never below what was to be rounded, whatever the unit
is. For a power of two it is the least multiple that is not below.
-/

/-- The bits that a mask keeps and the bits that it clears add up. -/
theorem and_add_and_complement
    (value low : Nat)
    (isSize : value < Size.limit)
    (lowIsSize : low < Size.limit) :
    (value &&& (Size.max - low)) + (value &&& low) = value := by
  have complement (index : Nat) :
      (Size.max - low).testBit index = (decide (index < 64) && !low.testBit index) := by
    have shifted : Size.max - low = 2 ^ 64 - (low + 1) := by
      simp only [Size.max, Size.limit] at lowIsSize ⊢
      omega
    rw [shifted]
    exact Nat.testBit_two_pow_sub_succ lowIsSize index
  have disjoint :
      BitVec.ofNat 64 (value &&& (Size.max - low)) &&& BitVec.ofNat 64 (value &&& low) = 0#64 := by
    apply BitVec.eq_of_getLsbD_eq
    intro index inside
    simp only [BitVec.getLsbD_and, BitVec.getLsbD_ofNat, Nat.testBit_and, complement]
    cases value.testBit index <;> cases low.testBit index <;> simp
  have union :
      BitVec.ofNat 64 (value &&& (Size.max - low)) ||| BitVec.ofNat 64 (value &&& low) =
        BitVec.ofNat 64 value := by
    apply BitVec.eq_of_getLsbD_eq
    intro index inside
    simp only [BitVec.getLsbD_or, BitVec.getLsbD_ofNat, Nat.testBit_and, complement]
    cases value.testBit index <;> cases low.testBit index <;> simp [inside]
  have keptIsSize : (value &&& (Size.max - low)) < 2 ^ 64 :=
    Nat.lt_of_le_of_lt Nat.and_le_left isSize
  have clearedIsSize : (value &&& low) < 2 ^ 64 :=
    Nat.lt_of_le_of_lt Nat.and_le_left isSize
  have total := BitVec.toNat_add_of_and_eq_zero disjoint
  rw [BitVec.add_eq_or_of_and_eq_zero _ _ disjoint, union] at total
  simp only [BitVec.toNat_ofNat, Nat.mod_eq_of_lt keptIsSize, Nat.mod_eq_of_lt clearedIsSize,
    Nat.mod_eq_of_lt (show value < 2 ^ 64 from isSize)] at total
  exact total.symm

/-- Rounding answers whenever the sum with the unit is a size. -/
theorem maskUp_eq_ok {value unit result : Nat} :
    maskUp value unit = .ok result ↔
      value + unit < Size.limit ∧
        result = (value + unit - 1) &&& (Size.max - (unit - 1)) := by
  simp only [maskUp, Checked.bind_eq_ok, Size.add, Size.check_eq_ok, pure, Except.pure,
    Except.ok.injEq]
  constructor
  · intro answered
    rcases answered with ⟨sum, ⟨small, rfl⟩, rfl⟩
    exact ⟨small, rfl⟩
  · intro answers
    rcases answers with ⟨small, rfl⟩
    exact ⟨_, ⟨small, rfl⟩, rfl⟩

/-- What rounding answers and the bits that the mask clears add up. -/
theorem maskUp_add_cleared
    {value unit rounded : Nat}
    (positive : 0 < unit)
    (masked : maskUp value unit = .ok rounded) :
    rounded + ((value + unit - 1) &&& (unit - 1)) = value + unit - 1 := by
  obtain ⟨small, rfl⟩ := maskUp_eq_ok.mp masked
  exact and_add_and_complement (value + unit - 1) (unit - 1) (by omega) (by omega)

theorem le_of_maskUp
    {value unit rounded : Nat}
    (positive : 0 < unit)
    (masked : maskUp value unit = .ok rounded) :
    value ≤ rounded := by
  have balance := maskUp_add_cleared positive masked
  have cleared : ((value + unit - 1) &&& (unit - 1)) ≤ unit - 1 :=
    Nat.and_le_right
  omega

theorem lt_add_of_maskUp
    {value unit rounded : Nat}
    (positive : 0 < unit)
    (masked : maskUp value unit = .ok rounded) :
    rounded < value + unit := by
  have balance := maskUp_add_cleared positive masked
  omega

/-- For a power of two, rounding answers the least multiple that is not below. -/
theorem maskUp_two_pow
    {value : Nat}
    (exponent : Nat)
    (small : value + 2 ^ exponent < Size.limit) :
    maskUp value (2 ^ exponent) =
      .ok (2 ^ exponent * ((value + 2 ^ exponent - 1) / 2 ^ exponent)) := by
  have positive : 0 < 2 ^ exponent := Nat.two_pow_pos exponent
  rw [maskUp_eq_ok]
  refine ⟨small, ?_⟩
  have parts :=
    and_add_and_complement (value + 2 ^ exponent - 1) (2 ^ exponent - 1)
      (by omega) (by omega)
  have division := Nat.div_add_mod (value + 2 ^ exponent - 1) (2 ^ exponent)
  rw [Nat.and_two_pow_sub_one_eq_mod] at parts
  omega

theorem maskUp_wordAlignment
    {value : Nat}
    (small : value + wordAlignment < Size.limit) :
    maskUp value wordAlignment = .ok (8 * ((value + 7) / 8)) :=
  maskUp_two_pow 3 small

theorem isPowerOfTwo_iff {number : Nat} :
    isPowerOfTwo number = true ↔ ∃ exponent, number = 2 ^ exponent := by
  rw [isPowerOfTwo, Bool.and_eq_true, decide_eq_true_eq, decide_eq_true_eq]
  constructor
  · rintro ⟨positive, cleared⟩
    exact (Nat.and_sub_one_eq_zero_iff_isPowerOfTwo (Nat.ne_of_gt positive)).mp cleared
  · rintro ⟨exponent, rfl⟩
    have positive := Nat.two_pow_pos exponent
    exact ⟨positive, (Nat.and_sub_one_eq_zero_iff_isPowerOfTwo (Nat.ne_of_gt positive)).mpr
      ⟨exponent, rfl⟩⟩

theorem isPowerOfTwo_wordAlignment : isPowerOfTwo wordAlignment = true := by
  decide

/-- What a reservation that is made looks like: at its address, untouched, and never too small. -/
theorem of_ofSizes_eq_ok
    {base reserveBytes granuleBytes : Nat}
    {arena : Arena}
    (made : ofSizes base reserveBytes granuleBytes = .ok (.ok arena)) :
    arena.base = base ∧ arena.used = 0 ∧
      reserveBytes ≤ arena.reserved ∧ arena.reserved ≤ Size.maxPiece ∧
      arena.committed = 0 ∧ 0 < arena.granule := by
  unfold ofSizes at made
  split at made
  next empty =>
    cases made
  next nonempty =>
    simp only [Checked.bind_eq_ok] at made
    rcases made with ⟨granule, granuleRounded, reserved, rounded, _, checked, same⟩
    cases same
    have addressable := Size.checkTable_eq_ok.mp checked
    have granuleLarge := le_of_maskUp (by decide) granuleRounded
    have positive : 0 < granule := by
      omega
    have reservedLarge := le_of_maskUp positive rounded
    exact ⟨rfl, rfl, reservedLarge, by simpa using addressable, rfl, positive⟩

end Gatehouse.Arena
