import Mathlib.Algebra.Ring.Nat
import Mathlib.Data.List.Induction
import Gatehouse.Bytes

namespace Gatehouse.Bytes

/-!
# Numbers as byte strings

The big-endian form of a number is the shortest byte string that spells it:
reading it gives the number back, and a byte string that does not start with a
zero byte is the form of the number it spells.
-/

@[simp]
theorem bigEndian_zero : bigEndian 0 = [] := by
  simp [bigEndian, bigEndianOnto]

theorem bigEndianOnto_eq_append (value : Nat) (after : Bytes) :
    bigEndianOnto value after = bigEndian value ++ after := by
  induction value using Nat.strongRecOn generalizing after with
  | ind value inductionHypothesis =>
      by_cases zero : value = 0
      · simp [zero, bigEndianOnto]
      · have smaller : value / 256 < value := by
          omega
        have alone : bigEndian value = bigEndian (value / 256) ++ [UInt8.ofNat value] := by
          rw [bigEndian, bigEndianOnto, if_neg zero, inductionHypothesis _ smaller]
        rw [bigEndianOnto, if_neg zero, inductionHypothesis _ smaller, alone, List.append_assoc]
        rfl

theorem bigEndian_of_ne_zero
    {value : Nat}
    (positive : value ≠ 0) :
    bigEndian value = bigEndian (value / 256) ++ [UInt8.ofNat value] := by
  rw [bigEndian, bigEndianOnto, if_neg positive, bigEndianOnto_eq_append]

/-- One byte more shifts the number by a byte. -/
@[simp]
theorem ofBigEndian_append_singleton (bytes : Bytes) (byte : UInt8) :
    ofBigEndian (bytes ++ [byte]) = 256 * ofBigEndian bytes + byte.toNat := by
  simp [ofBigEndian]

@[simp]
theorem ofBigEndian_bigEndian (value : Nat) : ofBigEndian (bigEndian value) = value := by
  induction value using Nat.strongRecOn with
  | ind value inductionHypothesis =>
      by_cases zero : value = 0
      · simp [zero, ofBigEndian]
      · rw [bigEndian_of_ne_zero zero, ofBigEndian_append_singleton,
          inductionHypothesis _ (by omega), UInt8.toNat_ofNat']
        omega

/-- A number has as many bytes as it takes to stay below the power of 256. -/
theorem length_bigEndian_le {value width : Nat} :
    (bigEndian value).length ≤ width ↔ value < 256 ^ width := by
  induction width generalizing value with
  | zero =>
      by_cases zero : value = 0
      · simp [zero]
      · simp [bigEndian_of_ne_zero zero, zero]
  | succ width inductionHypothesis =>
      by_cases zero : value = 0
      · rw [zero, bigEndian_zero]
        exact ⟨fun _ => Nat.pow_pos (by decide), fun _ => Nat.zero_le _⟩
      · rw [bigEndian_of_ne_zero zero, List.length_append, List.length_singleton,
          Nat.add_le_add_iff_right, inductionHypothesis, Nat.pow_succ]
        omega

/-- A byte string that does not start with a zero byte is the form of the number it spells. -/
theorem bigEndian_ofBigEndian
    {bytes : Bytes}
    (leading : bytes.head? ≠ some 0) :
    bigEndian (ofBigEndian bytes) = bytes := by
  induction bytes using List.reverseRecOn with
  | nil =>
      simp [ofBigEndian]
  | append_singleton front last inductionHypothesis =>
      have small : last.toNat < 256 := last.toNat_lt
      have positive : 256 * ofBigEndian front + last.toNat ≠ 0 := by
        intro zero
        have noFront : ofBigEndian front = 0 := by
          omega
        have isZero : last = 0 := by
          apply UInt8.toNat_inj.mp
          simp only [UInt8.toNat_zero]
          omega
        cases front with
        | nil =>
            rw [isZero] at leading
            exact leading rfl
        | cons first rest =>
            have same := inductionHypothesis leading
            rw [noFront, bigEndian_zero] at same
            cases same
      have quotient : (256 * ofBigEndian front + last.toNat) / 256 = ofBigEndian front := by
        omega
      have low : UInt8.ofNat (256 * ofBigEndian front + last.toNat) = last := by
        apply UInt8.toNat_inj.mp
        rw [UInt8.toNat_ofNat']
        omega
      rw [ofBigEndian_append_singleton, bigEndian_of_ne_zero positive, quotient, low]
      cases front with
      | nil =>
          simp [ofBigEndian]
      | cons first rest =>
          rw [inductionHypothesis leading]

/-- A byte string that spells a number in as few bytes as it takes, with no zero byte in front. -/
structure IsMinimal (bytes : Bytes) (value : Nat) : Prop where
  value_eq : ofBigEndian bytes = value
  leading : bytes.head? ≠ some 0

theorem isMinimal_bigEndian (value : Nat) : (bigEndian value).IsMinimal value := by
  refine ⟨ofBigEndian_bigEndian value, ?_⟩
  induction value using Nat.strongRecOn with
  | ind value inductionHypothesis =>
      by_cases zero : value = 0
      · simp [zero]
      · rw [bigEndian_of_ne_zero zero]
        by_cases last : value / 256 = 0
        · -- Only the last byte is left, and it spells all of the number.
          have byte_ne : UInt8.ofNat value ≠ 0 := by
            intro isZero
            have residue := congrArg UInt8.toNat isZero
            rw [UInt8.toNat_ofNat', UInt8.toNat_zero] at residue
            omega
          simpa [last] using byte_ne
        · have leading := inductionHypothesis (value / 256) (by omega)
          cases front : bigEndian (value / 256) with
          | nil =>
              exact absurd (length_bigEndian_le.mp (Nat.le_of_eq (congrArg List.length front)))
                (by simpa using last)
          | cons first rest =>
              rw [front] at leading
              exact leading

@[simp]
theorem ofBigEndian_zeros_append (count : Nat) (bytes : Bytes) :
    ofBigEndian (zeros count ++ bytes) = ofBigEndian bytes := by
  induction count with
  | zero =>
      rfl
  | succ count inductionHypothesis =>
      rw [← inductionHypothesis]
      rfl

theorem ofBigEndian_lt (bytes : Bytes) : ofBigEndian bytes < 256 ^ bytes.length := by
  induction bytes using List.reverseRecOn with
  | nil =>
      simp [ofBigEndian]
  | append_singleton front last inductionHypothesis =>
      have small : last.toNat < 256 := last.toNat_lt
      rw [ofBigEndian_append_singleton, List.length_append, List.length_singleton, Nat.pow_succ]
      omega

end Gatehouse.Bytes
