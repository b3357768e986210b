import Gatehouse.KeyPair.Basic
import Gatehouse.Proofs.Bytes.Numbers
import Gatehouse.Proofs.Modular

namespace Gatehouse.KeyPair

/-!
# The two operations undo each other

A key that was made carries exponents that are inverse to each other and the
coefficient that recombines residues. Its private operation answers the number
below the modulus with the residues it computed. So for two different odd primes
each operation undoes the other on every number below the modulus, also on
multiples of a prime.
-/

/-- A key keeps the residues of a private exponent, which is an inverse of its public one. -/
structure Keeps (key : KeyPair) (privateExponent : Nat) : Prop where
  undoes :
    key.exponent * privateExponent ≡ 1
      [MOD Nat.lcm (key.firstPrime - 1) (key.secondPrime - 1)]
  firstExponent_eq : key.firstExponent = privateExponent % (key.firstPrime - 1)
  secondExponent_eq : key.secondExponent = privateExponent % (key.secondPrime - 1)

/-- What making a key establishes about its values. -/
structure IsMade (key : KeyPair) : Prop where
  first_gt : 1 < key.firstPrime
  second_gt : 1 < key.secondPrime
  modulus_eq : key.modulus = key.firstPrime * key.secondPrime
  modulus_lt : key.modulus < 2 ^ maxBitLength
  keeps : ∃ privateExponent, key.Keeps privateExponent
  coefficient_inverse : key.secondPrime * key.coefficient ≡ 1 [MOD key.firstPrime]

theorem lt_of_bitLength_le
    {value width : Nat}
    (short : Modular.bitLength value ≤ width) :
    value < 2 ^ width := by
  unfold Modular.bitLength at short
  split at short
  next zero =>
    rw [zero]
    exact Nat.two_pow_pos width
  next positive =>
    exact (Nat.log2_lt positive).mp short

/-- A key that was made passed every test, and holds the inverses that were found for it. -/
theorem exists_of_ofPrimes
    {firstPrime secondPrime exponent : Nat}
    {key : KeyPair}
    (made : ofPrimes firstPrime secondPrime exponent = .ok key) :
    ∃ privateExponent coefficient,
      (1 < firstPrime ∧ 1 < secondPrime) ∧
        Modular.bitLength (firstPrime * secondPrime) ≤ maxBitLength ∧
        Modular.inverse? exponent (Nat.lcm (firstPrime - 1) (secondPrime - 1)) =
          some privateExponent ∧
        Modular.inverse? secondPrime firstPrime = some coefficient ∧
        key = {
          firstPrime := firstPrime
          secondPrime := secondPrime
          modulus := firstPrime * secondPrime
          exponent := exponent
          firstExponent := privateExponent % (firstPrime - 1)
          secondExponent := privateExponent % (secondPrime - 1)
          coefficient := coefficient } := by
  unfold ofPrimes at made
  by_cases small : firstPrime ≤ 1 ∨ secondPrime ≤ 1
  · simp [small, throw, throwThe, MonadExceptOf.throw, bind, Except.bind] at made
  by_cases wide : maxBitLength < Modular.bitLength (firstPrime * secondPrime)
  · simp [small, wide, throw, throwThe, MonadExceptOf.throw, bind, Except.bind] at made
  by_cases invalid :
      Nat.lcm (firstPrime - 1) (secondPrime - 1) ≤ exponent ∨ exponent = 0 ∨
        Nat.gcd exponent (Nat.lcm (firstPrime - 1) (secondPrime - 1)) ≠ 1
  · simp [small, wide, invalid, throw, throwThe, MonadExceptOf.throw, bind, Except.bind] at made
  simp only [small, wide, invalid, if_false, bind, Except.bind, pure, Except.pure] at made
  split at made
  next privateExponent ofExponent =>
    split at made
    next coefficient ofSecond =>
      cases made
      exact ⟨privateExponent, coefficient, by omega, Nat.not_lt.mp wide, ofExponent, ofSecond, rfl⟩
    next =>
      cases made
  next =>
    cases made

/-- Making a key keeps its primes and establishes its values. -/
theorem isMade_of_ofPrimes
    {firstPrime secondPrime exponent : Nat}
    {key : KeyPair}
    (made : ofPrimes firstPrime secondPrime exponent = .ok key) :
    key.IsMade ∧ key.firstPrime = firstPrime ∧ key.secondPrime = secondPrime := by
  obtain ⟨privateExponent, coefficient, ⟨first_gt, second_gt⟩, narrow, ofExponent, ofSecond, rfl⟩ :=
    exists_of_ofPrimes made
  have orderPositive : 0 < Nat.lcm (firstPrime - 1) (secondPrime - 1) :=
    Nat.lcm_pos (by omega) (by omega)
  have firstPositive : 0 < firstPrime := Nat.zero_lt_of_lt first_gt
  exact ⟨{
    first_gt := first_gt
    second_gt := second_gt
    modulus_eq := rfl
    modulus_lt := lt_of_bitLength_le narrow
    keeps := ⟨privateExponent, Modular.inverse?_modEq orderPositive ofExponent, rfl, rfl⟩
    coefficient_inverse := Modular.inverse?_modEq firstPositive ofSecond
  }, rfl, rfl⟩

/-- Making a key keeps its public exponent. -/
theorem exponent_of_ofPrimes
    {firstPrime secondPrime exponent : Nat}
    {key : KeyPair}
    (made : ofPrimes firstPrime secondPrime exponent = .ok key) :
    key.exponent = exponent := by
  obtain ⟨_, _, _, _, _, _, rfl⟩ := exists_of_ofPrimes made
  rfl

/-- The private operation keeps the residue modulo the second prime. -/
theorem privatePower_modEq_second (key : KeyPair) (value : Nat) :
    key.privatePower value ≡ value ^ key.secondExponent [MOD key.secondPrime] := by
  have residue := Modular.power_modEq value key.secondExponent key.secondPrime
  rw [privatePower]
  exact (Nat.modEq_iff_dvd.mpr (by simp)).trans residue

namespace IsMade

variable {key : KeyPair} (made : key.IsMade)

include made

theorem privatePower_lt (value : Nat) : key.privatePower value < key.modulus := by
  have first_gt := made.first_gt
  have second_gt := made.second_gt
  have low := Modular.power_lt (by omega : 0 < key.secondPrime) value key.secondExponent
  have quotient_lt (dividend : Nat) : dividend % key.firstPrime + 1 ≤ key.firstPrime :=
    Nat.mod_lt _ (by omega)
  rw [made.modulus_eq, privatePower]
  calc
    _ < key.secondPrime + _ * key.secondPrime := Nat.add_lt_add_right low _
    _ = (_ + 1) * key.secondPrime := by rw [Nat.succ_mul, Nat.add_comm]
    _ ≤ key.firstPrime * key.secondPrime := Nat.mul_le_mul_right _ (quotient_lt _)

/-- The private operation recombines to the residue modulo the first prime. -/
theorem privatePower_modEq_first (value : Nat) :
    key.privatePower value ≡ value ^ key.firstExponent [MOD key.firstPrime] := by
  have first_gt := made.first_gt
  have residue := Modular.power_modEq value key.firstExponent key.firstPrime
  rw [privatePower]
  generalize Modular.power value key.firstExponent key.firstPrime = first at *
  generalize Modular.power value key.secondExponent key.secondPrime = second at *
  have reduced : second % key.firstPrime ≤ first + key.firstPrime :=
    Nat.le_trans (Nat.mod_lt _ (by omega)).le (Nat.le_add_left _ _)
  calc
    second +
          (first + key.firstPrime - second % key.firstPrime) * key.coefficient % key.firstPrime *
            key.secondPrime
        ≡ second +
          (first + key.firstPrime - second % key.firstPrime) * key.coefficient *
            key.secondPrime [MOD key.firstPrime] :=
      ((Nat.mod_modEq _ _).mul_right _).add_left _
    _ = second +
          (first + key.firstPrime - second % key.firstPrime) *
            (key.secondPrime * key.coefficient) := by ring
    _ ≡ second + (first + key.firstPrime - second % key.firstPrime) * 1 [MOD key.firstPrime] :=
      (made.coefficient_inverse.mul_left _).add_left _
    _ ≡ second % key.firstPrime +
          (first + key.firstPrime - second % key.firstPrime) * 1 [MOD key.firstPrime] :=
      (Nat.mod_modEq _ _).symm.add_right _
    _ = first + key.firstPrime := by omega
    _ ≡ first [MOD key.firstPrime] := Nat.add_modEq_right
    _ ≡ value ^ key.firstExponent [MOD key.firstPrime] := residue

theorem publicPower_lt (value : Nat) : key.publicPower value < key.modulus := by
  have first_gt := made.first_gt
  have second_gt := made.second_gt
  apply Modular.power_lt
  rw [made.modulus_eq]
  exact Nat.mul_pos (by omega) (by omega)

theorem publicPower_modEq_first (value : Nat) :
    key.publicPower value ≡ value ^ key.exponent [MOD key.firstPrime] := by
  apply (Modular.power_modEq value key.exponent key.modulus).of_dvd
  rw [made.modulus_eq]
  exact Nat.dvd_mul_right _ _

theorem publicPower_modEq_second (value : Nat) :
    key.publicPower value ≡ value ^ key.exponent [MOD key.secondPrime] := by
  apply (Modular.power_modEq value key.exponent key.modulus).of_dvd
  rw [made.modulus_eq]
  exact Nat.dvd_mul_left _ _

/-- The exponents of the two operations are inverse to each other modulo the first order. -/
theorem exponents_modEq_first :
    key.exponent * key.firstExponent ≡ 1 [MOD key.firstPrime - 1] := by
  obtain ⟨_, kept⟩ := made.keeps
  rw [kept.firstExponent_eq]
  exact ((Nat.mod_modEq _ _).mul_left _).trans (kept.undoes.of_dvd (Nat.dvd_lcm_left _ _))

theorem exponents_modEq_second :
    key.exponent * key.secondExponent ≡ 1 [MOD key.secondPrime - 1] := by
  obtain ⟨_, kept⟩ := made.keeps
  rw [kept.secondExponent_eq]
  exact ((Nat.mod_modEq _ _).mul_left _).trans (kept.undoes.of_dvd (Nat.dvd_lcm_right _ _))

section OddPrimes

variable (firstIsPrime : key.firstPrime.Prime) (secondIsPrime : key.secondPrime.Prime)
  (firstOdd : key.firstPrime ≠ 2) (secondOdd : key.secondPrime ≠ 2)
  (different : key.firstPrime ≠ key.secondPrime)
  {value : Nat} (small : value < key.modulus)

include firstIsPrime secondIsPrime different in
/-- A number below the modulus is known by its residues modulo the two primes. -/
theorem eq_of_modEq
    {result : Nat}
    (result_lt : result < key.modulus)
    (value_lt : value < key.modulus)
    (ofFirst : result ≡ value [MOD key.firstPrime])
    (ofSecond : result ≡ value [MOD key.secondPrime]) :
    result = value := by
  have coprime := (Nat.coprime_primes firstIsPrime secondIsPrime).mpr different
  have both := (Nat.modEq_and_modEq_iff_modEq_mul coprime).mp ⟨ofFirst, ofSecond⟩
  rw [← made.modulus_eq] at both
  exact both.eq_of_lt_of_lt result_lt value_lt

include firstIsPrime secondIsPrime firstOdd secondOdd different small

/-- For two different odd primes, the private operation undoes the public one. -/
theorem privatePower_publicPower : key.privatePower (key.publicPower value) = value := by
  have first_unit := made.exponents_modEq_first
  have second_unit := made.exponents_modEq_second
  apply made.eq_of_modEq firstIsPrime secondIsPrime different (made.privatePower_lt _) small
  · calc
      key.privatePower (key.publicPower value)
          ≡ key.publicPower value ^ key.firstExponent [MOD key.firstPrime] :=
        made.privatePower_modEq_first _
      _ ≡ (value ^ key.exponent) ^ key.firstExponent [MOD key.firstPrime] :=
        (made.publicPower_modEq_first value).pow _
      _ = value ^ (key.exponent * key.firstExponent) := (pow_mul ..).symm
      _ ≡ value [MOD key.firstPrime] := Modular.pow_modEq_self firstIsPrime firstOdd first_unit _
  · calc
      key.privatePower (key.publicPower value)
          ≡ key.publicPower value ^ key.secondExponent [MOD key.secondPrime] :=
        key.privatePower_modEq_second _
      _ ≡ (value ^ key.exponent) ^ key.secondExponent [MOD key.secondPrime] :=
        (made.publicPower_modEq_second value).pow _
      _ = value ^ (key.exponent * key.secondExponent) := (pow_mul ..).symm
      _ ≡ value [MOD key.secondPrime] :=
        Modular.pow_modEq_self secondIsPrime secondOdd second_unit _

/-- For two different odd primes, the public operation undoes the private one. -/
theorem publicPower_privatePower : key.publicPower (key.privatePower value) = value := by
  have first_unit := made.exponents_modEq_first
  have second_unit := made.exponents_modEq_second
  apply made.eq_of_modEq firstIsPrime secondIsPrime different (made.publicPower_lt _) small
  · calc
      key.publicPower (key.privatePower value)
          ≡ key.privatePower value ^ key.exponent [MOD key.firstPrime] :=
        made.publicPower_modEq_first _
      _ ≡ (value ^ key.firstExponent) ^ key.exponent [MOD key.firstPrime] :=
        (made.privatePower_modEq_first value).pow _
      _ = value ^ (key.exponent * key.firstExponent) := (pow_mul' ..).symm
      _ ≡ value [MOD key.firstPrime] := Modular.pow_modEq_self firstIsPrime firstOdd first_unit _
  · calc
      key.publicPower (key.privatePower value)
          ≡ key.privatePower value ^ key.exponent [MOD key.secondPrime] :=
        made.publicPower_modEq_second _
      _ ≡ (value ^ key.secondExponent) ^ key.exponent [MOD key.secondPrime] :=
        (key.privatePower_modEq_second value).pow _
      _ = value ^ (key.exponent * key.secondExponent) := (pow_mul' ..).symm
      _ ≡ value [MOD key.secondPrime] :=
        Modular.pow_modEq_self secondIsPrime secondOdd second_unit _

end OddPrimes

end IsMade

end Gatehouse.KeyPair
