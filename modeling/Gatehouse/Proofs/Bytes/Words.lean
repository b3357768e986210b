import Mathlib.Algebra.Ring.Nat
import Gatehouse.Bytes

namespace Gatehouse.Bytes

/-!
# Words in byte strings

Little-endian spelling and reading undo each other: a number of at most the
given width survives being spelled, and a byte string survives being read. The
fixed-width words of the protocol are the cases of two and four bytes.
-/

/-- Spelling a number and reading it back keeps what fits the width. -/
theorem ofLittleEndian_littleEndian (width value : Nat) :
    ofLittleEndian (littleEndian width value) = value % 256 ^ width := by
  induction width generalizing value with
  | zero =>
      simp [littleEndian, ofLittleEndian, Nat.mod_one]
  | succ width inductionHypothesis =>
      have split :
          value % 256 ^ (width + 1) =
            value % 256 + 256 * (value / 256 % 256 ^ width) := by
        rw [Nat.pow_succ', Nat.mod_mul]
      simp only [littleEndian, ofLittleEndian, inductionHypothesis, UInt8.toNat_ofNat']
      exact split.symm

/-- Reading a byte string and spelling the number gives the byte string back. -/
theorem littleEndian_ofLittleEndian (bytes : Bytes) :
    littleEndian bytes.length (ofLittleEndian bytes) = bytes := by
  induction bytes with
  | nil =>
      rfl
  | cons byte rest inductionHypothesis =>
      have small : byte.toNat < 256 := byte.toNat_lt
      have quotient :
          (byte.toNat + 256 * ofLittleEndian rest) / 256 = ofLittleEndian rest := by
        omega
      have low : UInt8.ofNat (byte.toNat + 256 * ofLittleEndian rest) = byte := by
        apply UInt8.toNat_inj.mp
        simp only [UInt8.toNat_ofNat']
        omega
      simp only [List.length_cons, littleEndian, ofLittleEndian, quotient, low,
        inductionHypothesis]

theorem ofLittleEndian_lt (bytes : Bytes) :
    ofLittleEndian bytes < 256 ^ bytes.length := by
  induction bytes with
  | nil =>
      simp [ofLittleEndian]
  | cons byte rest inductionHypothesis =>
      have small : byte.toNat < 256 := byte.toNat_lt
      simp only [ofLittleEndian, List.length_cons, Nat.pow_succ]
      omega

theorem ofLittleEndian_littleEndian_of_lt
    {width value : Nat}
    (small : value < 256 ^ width) :
    ofLittleEndian (littleEndian width value) = value := by
  rw [ofLittleEndian_littleEndian, Nat.mod_eq_of_lt small]

/-- A number that the width holds is read back from the front of a byte string. -/
theorem ofLittleEndian_take_littleEndian_append
    {width value : Nat}
    (small : value < 256 ^ width)
    (rest : Bytes) :
    ofLittleEndian ((littleEndian width value ++ rest).take width) = value := by
  rw [List.take_left' (length_littleEndian width value), ofLittleEndian_littleEndian_of_lt small]

/-- The number read from the front of a byte string is spelled by those bytes. -/
theorem littleEndian_ofLittleEndian_take
    {bytes : Bytes}
    {width : Nat}
    (enough : width ≤ bytes.length) :
    ofLittleEndian (bytes.take width) < 256 ^ width ∧
      littleEndian width (ofLittleEndian (bytes.take width)) = bytes.take width := by
  have length_eq : (bytes.take width).length = width := by
    rw [List.length_take, Nat.min_eq_left enough]
  have small := ofLittleEndian_lt (bytes.take width)
  have spelled := littleEndian_ofLittleEndian (bytes.take width)
  rw [length_eq] at small spelled
  exact ⟨small, spelled⟩

@[simp]
theorem toUInt16_ofUInt16_append (value : UInt16) (rest : Bytes) :
    toUInt16 (ofUInt16 value ++ rest) = value := by
  have small : value.toNat < 256 ^ 2 := value.toNat_lt
  rw [toUInt16, ofUInt16, ofLittleEndian_take_littleEndian_append small]
  exact UInt16.ofNat_toNat

@[simp]
theorem toUInt32_ofUInt32_append (value : UInt32) (rest : Bytes) :
    toUInt32 (ofUInt32 value ++ rest) = value := by
  have small : value.toNat < 256 ^ 4 := value.toNat_lt
  rw [toUInt32, ofUInt32, ofLittleEndian_take_littleEndian_append small]
  exact UInt32.ofNat_toNat

@[simp]
theorem toUInt16_ofUInt16 (value : UInt16) :
    toUInt16 (ofUInt16 value) = value := by
  simpa using toUInt16_ofUInt16_append value []

@[simp]
theorem toUInt32_ofUInt32 (value : UInt32) :
    toUInt32 (ofUInt32 value) = value := by
  simpa using toUInt32_ofUInt32_append value []

/-- A number that one byte holds is that byte and a zero. -/
theorem ofUInt16_of_lt
    {value : Nat}
    (small : value < 256) :
    ofUInt16 (UInt16.ofNat value) = [UInt8.ofNat value, 0] := by
  have value_eq : (UInt16.ofNat value).toNat = value :=
    UInt16.toNat_ofNat_of_lt' (Nat.lt_trans small (by decide))
  have high : value / 256 = 0 := Nat.div_eq_of_lt small
  simp only [ofUInt16, value_eq, littleEndian, high]
  rfl

theorem ofUInt16_toUInt16
    {bytes : Bytes}
    (enough : 2 ≤ bytes.length) :
    ofUInt16 (toUInt16 bytes) = bytes.take 2 := by
  obtain ⟨small, spelled⟩ := littleEndian_ofLittleEndian_take enough
  rw [toUInt16, ofUInt16, UInt16.toNat_ofNat_of_lt' small, spelled]

theorem ofUInt32_toUInt32
    {bytes : Bytes}
    (enough : 4 ≤ bytes.length) :
    ofUInt32 (toUInt32 bytes) = bytes.take 4 := by
  obtain ⟨small, spelled⟩ := littleEndian_ofLittleEndian_take enough
  rw [toUInt32, ofUInt32, UInt32.toNat_ofNat_of_lt' small, spelled]

end Gatehouse.Bytes
