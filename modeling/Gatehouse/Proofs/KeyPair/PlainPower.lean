import Gatehouse.Proofs.KeyPair.Buffer

namespace Gatehouse.KeyPair

/-!
# The private operation is a plain power

Working modulo each prime with a reduced exponent and recombining computes the
power by the inverse of the public exponent, modulo the product of the primes.
That holds for every number, also for multiples of a prime, since the reduced
exponents are not zero, and for numbers that are not below the modulus.
-/

/-- The inverse of a public exponent modulo the order that belongs to two primes. -/
structure IsPrivateExponent (firstPrime secondPrime exponent inverse : Nat) : Prop where
  lt_order : inverse < Nat.lcm (firstPrime - 1) (secondPrime - 1)
  undoes : exponent * inverse ≡ 1 [MOD Nat.lcm (firstPrime - 1) (secondPrime - 1)]

/--
An operation on a buffer leaves the fewest bytes of a number in front, with all
bytes behind them as they were; if they are too many, it leaves the buffer and
answers their number.
-/
def LeavesNumber (value : Nat) (buffer : Bytes) (attempt : Attempt KeyError Nat) : Prop :=
  ∃ form : Bytes,
    form.IsMinimal value ∧
      (form.length ≤ buffer.length →
        attempt =
          { outcome := .ok form.length, buffer := form ++ buffer.drop form.length }) ∧
      (buffer.length < form.length →
        attempt =
          { outcome := .error (.outputTooLarge form.length buffer.length), buffer := buffer })

theorem leavesNumber_writeInteger (value : Nat) (buffer : Bytes) :
    LeavesNumber value buffer (writeInteger value buffer) := by
  refine ⟨Bytes.bigEndian value, Bytes.isMinimal_bigEndian value, writeInteger_of_fits, ?_⟩
  intro tooMany
  simp only [writeInteger, Nat.not_le.mpr tooMany, if_false]

namespace IsMade

variable {key : KeyPair} (made : key.IsMade)

include made

/-- A public exponent has one inverse below the order. -/
theorem existsUnique_isPrivateExponent :
    ∃! inverse, IsPrivateExponent key.firstPrime key.secondPrime key.exponent inverse := by
  have first_gt := made.first_gt
  have second_gt := made.second_gt
  have positive : 0 < Nat.lcm (key.firstPrime - 1) (key.secondPrime - 1) :=
    Nat.lcm_pos (by omega) (by omega)
  obtain ⟨privateExponent, kept⟩ := made.keeps
  refine ⟨privateExponent % _, ⟨Nat.mod_lt _ positive, ?_⟩, ?_⟩
  · exact ((Nat.mod_modEq _ _).mul_left _).trans kept.undoes
  · intro other isInverse
    have same := Modular.modEq_of_mul_modEq_one isInverse.undoes kept.undoes
    exact (same.trans (Nat.mod_modEq _ _).symm).eq_of_lt_of_lt isInverse.lt_order
      (Nat.mod_lt _ positive)

section OddPrimes

variable (firstIsPrime : key.firstPrime.Prime) (secondIsPrime : key.secondPrime.Prime)
  (firstOdd : key.firstPrime ≠ 2) (secondOdd : key.secondPrime ≠ 2)
  (different : key.firstPrime ≠ key.secondPrime)

include firstIsPrime secondIsPrime firstOdd secondOdd different

/-- For two different odd primes, the private operation is the power by an inverse. -/
theorem privatePower_eq_pow
    {inverse : Nat}
    (undoes :
      key.exponent * inverse ≡ 1 [MOD Nat.lcm (key.firstPrime - 1) (key.secondPrime - 1)])
    (value : Nat) :
    key.privatePower value = value ^ inverse % key.modulus := by
  have modulus_pos : 0 < key.modulus := Nat.zero_lt_of_lt (made.privatePower_lt value)
  have first_large := firstIsPrime.two_le
  have second_large := secondIsPrime.two_le
  have undoesFirst := undoes.of_dvd (Nat.dvd_lcm_left _ _)
  have undoesSecond := undoes.of_dvd (Nat.dvd_lcm_right _ _)
  -- Neither the inverse nor what is left of it modulo an order is zero.
  have inverse_ne := right_ne_zero_of_mul (Modular.ne_zero_of_modEq_one (by omega) undoesFirst)
  have first_ne :=
    right_ne_zero_of_mul (Modular.ne_zero_of_modEq_one (by omega) made.exponents_modEq_first)
  have second_ne :=
    right_ne_zero_of_mul (Modular.ne_zero_of_modEq_one (by omega) made.exponents_modEq_second)
  apply made.eq_of_modEq firstIsPrime secondIsPrime different (made.privatePower_lt _)
    (Nat.mod_lt _ modulus_pos)
  · calc
      key.privatePower value ≡ value ^ key.firstExponent [MOD key.firstPrime] :=
        made.privatePower_modEq_first value
      _ ≡ value ^ inverse [MOD key.firstPrime] :=
        Modular.pow_modEq_pow firstIsPrime first_ne inverse_ne
          (Modular.modEq_of_mul_modEq_one made.exponents_modEq_first undoesFirst) value
      _ ≡ value ^ inverse % key.modulus [MOD key.firstPrime] := by
        rw [made.modulus_eq]
        exact ((Nat.mod_modEq _ _).of_dvd (Nat.dvd_mul_right _ _)).symm
  · calc
      key.privatePower value ≡ value ^ key.secondExponent [MOD key.secondPrime] :=
        key.privatePower_modEq_second value
      _ ≡ value ^ inverse [MOD key.secondPrime] :=
        Modular.pow_modEq_pow secondIsPrime second_ne inverse_ne
          (Modular.modEq_of_mul_modEq_one made.exponents_modEq_second undoesSecond) value
      _ ≡ value ^ inverse % key.modulus [MOD key.secondPrime] := by
        rw [made.modulus_eq]
        exact ((Nat.mod_modEq _ _).of_dvd (Nat.dvd_mul_left _ _)).symm

end OddPrimes

end IsMade

/--
With a key of two different odd primes, decrypting any integer at the front of any
buffer computes its power by the one inverse of the public exponent, modulo the
product of the primes, and leaves the fewest bytes of that number.
-/
theorem decode_leaves_plain_power
    {firstPrime secondPrime exponent : Nat}
    {key : KeyPair}
    (made : ofPrimes firstPrime secondPrime exponent = .ok key)
    (firstIsPrime : firstPrime.Prime)
    (secondIsPrime : secondPrime.Prime)
    (firstOdd : firstPrime ≠ 2)
    (secondOdd : secondPrime ≠ 2)
    (different : firstPrime ≠ secondPrime) :
    (∃! inverse, IsPrivateExponent firstPrime secondPrime exponent inverse) ∧
      ∀ inverse,
        IsPrivateExponent firstPrime secondPrime exponent inverse →
        ∀ (buffer : Bytes) (length : Nat),
          LeavesNumber
            (Bytes.ofBigEndian (buffer.take length) ^ inverse % (firstPrime * secondPrime))
            buffer (key.decode buffer length) := by
  have exponent_eq := exponent_of_ofPrimes made
  obtain ⟨isMade, rfl, rfl⟩ := isMade_of_ofPrimes made
  subst exponent_eq
  refine ⟨isMade.existsUnique_isPrivateExponent, ?_⟩
  intro inverse isInverse buffer length
  rw [← isMade.modulus_eq,
    ← isMade.privatePower_eq_pow firstIsPrime secondIsPrime firstOdd secondOdd different
      isInverse.undoes,
    decode_eq, inFront]
  exact leavesNumber_writeInteger _ buffer

/-- The key of two small primes with its exponents exchanged. -/
def exchangedKey : KeyPair where
  firstPrime := 61
  secondPrime := 53
  modulus := 3233
  exponent := 413
  firstExponent := 17
  secondExponent := 17
  coefficient := 38

/--
The power of 65535, which is above the modulus 3233, takes the front of a buffer of
three bytes, and that of 122, which is a multiple of the prime 61, does not fit one byte.
-/
theorem exchanged_key_leaves_plain_power :
    ofPrimes 61 53 413 = .ok exchangedKey ∧
      IsPrivateExponent 61 53 413 17 ∧
      LeavesNumber (65535 ^ 17 % 3233) [255, 255, 7] (exchangedKey.decode [255, 255, 7] 2) ∧
      LeavesNumber (122 ^ 17 % 3233) [122] (exchangedKey.decode [122] 1) := by
  have made : ofPrimes 61 53 413 = .ok exchangedKey := by
    decide +kernel
  have inverse : IsPrivateExponent 61 53 413 17 := ⟨by decide +kernel, by decide +kernel⟩
  obtain ⟨_, leaves⟩ :=
    decode_leaves_plain_power made (by decide +kernel) (by decide +kernel) (by decide) (by decide)
      (by decide)
  exact ⟨made, inverse, leaves 17 inverse [255, 255, 7] 2, leaves 17 inverse [122] 1⟩

end Gatehouse.KeyPair
