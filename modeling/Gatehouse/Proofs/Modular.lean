import Mathlib.FieldTheory.Finite.Basic
import Mathlib.NumberTheory.LucasPrimality
import Gatehouse.Modular

namespace Gatehouse.Modular

/-!
# What the modular operations compute

Repeated squaring computes the power, and Euclid's algorithm an inverse
whenever it answers one. Modulo a prime, exponents count modulo `prime - 1`, so
powers whose exponent is one more than a multiple of that change nothing.
-/

/-- Repeated squaring computes the power. -/
theorem power_eq (base exponent modulus : Nat) :
    power base exponent modulus = base ^ exponent % modulus := by
  have squared (base half : Nat) :
      (base * base % modulus) ^ half % modulus = base ^ (2 * half) % modulus := by
    rw [← Nat.pow_mod, Nat.pow_mul, Nat.pow_two]
  fun_induction power base exponent modulus with
  | case1 base =>
      rw [Nat.pow_zero]
  | case2 base exponent positive squares odd inductionHypothesis =>
      have halves : 2 * (exponent / 2) + 1 = exponent := by
        omega
      rw [show squares = _ from inductionHypothesis, squared, ← Nat.mul_mod, ← pow_succ', halves]
  | case3 base exponent positive squares even inductionHypothesis =>
      have halves : 2 * (exponent / 2) = exponent := by
        omega
      rw [show squares = _ from inductionHypothesis, squared, halves]

theorem power_lt
    {modulus : Nat}
    (positive : 0 < modulus)
    (base exponent : Nat) :
    power base exponent modulus < modulus := by
  rw [power_eq]
  exact Nat.mod_lt _ positive

theorem power_modEq (base exponent modulus : Nat) :
    power base exponent modulus ≡ base ^ exponent [MOD modulus] := by
  rw [power_eq]
  exact Nat.mod_modEq _ _

/--
Euclid's algorithm keeps each remainder congruent to its coefficient times the
value, and ends with the greatest common divisor.
-/
theorem euclid_modEq
    {value modulus : Int}
    {remainder next : Nat}
    {coefficient nextCoefficient : Int}
    (ofRemainder : (remainder : Int) ≡ coefficient * value [ZMOD modulus])
    (ofNext : (next : Int) ≡ nextCoefficient * value [ZMOD modulus]) :
    ((euclid remainder coefficient next nextCoefficient).1 : Int) ≡
      (euclid remainder coefficient next nextCoefficient).2 * value [ZMOD modulus] := by
  fun_induction euclid remainder coefficient next nextCoefficient with
  | case1 remainder coefficient nextCoefficient =>
      exact ofRemainder
  | case2 remainder coefficient next nextCoefficient positive inductionHypothesis =>
      apply inductionHypothesis ofNext
      have division :
          ((remainder % next : Nat) : Int) = remainder - (remainder / next : Nat) * next := by
        rw [Int.natCast_mod, Int.natCast_div, Int.emod_def, mul_comm]
      rw [division, sub_mul, mul_assoc]
      exact ofRemainder.sub (ofNext.mul_left _)

theorem inverse?_modEq
    {value modulus inverse : Nat}
    (positive : 0 < modulus)
    (answered : inverse? value modulus = some inverse) :
    value * inverse ≡ 1 [MOD modulus] := by
  have ofModulus : (modulus : Int) ≡ 0 * value [ZMOD modulus] := by
    simp [Int.modEq_iff_dvd]
  have ofValue : ((value % modulus : Nat) : Int) ≡ 1 * value [ZMOD modulus] := by
    simp [Int.mod_modEq]
  have invariant := euclid_modEq ofModulus ofValue
  unfold inverse? at answered
  split at answered
  next divisor coefficient ended =>
    rw [ended] at invariant
    split at answered
    next coprime =>
      cases answered
      have reduced : ((coefficient % (modulus : Int)).toNat : Int) = coefficient % modulus :=
        Int.toNat_of_nonneg (Int.emod_nonneg _ (by exact_mod_cast positive.ne'))
      rw [← Int.natCast_modEq_iff, Nat.cast_mul, Int.ofNat_eq_natCast, reduced, Nat.cast_one]
      calc
        (value : Int) * (coefficient % modulus) ≡ value * coefficient [ZMOD modulus] :=
          (Int.mod_modEq _ _).mul_left _
        _ = coefficient * value := mul_comm _ _
        _ ≡ divisor [ZMOD modulus] := invariant.symm
        _ = 1 := by rw [coprime, Nat.cast_one]
    next common =>
      cases answered

theorem ne_zero_of_modEq_one
    {value modulus : Nat}
    (large : 1 < modulus)
    (unit : value ≡ 1 [MOD modulus]) :
    value ≠ 0 := by
  rintro rfl
  have divides := (Nat.modEq_iff_dvd' (Nat.zero_le 1)).mp unit
  have small := Nat.le_of_dvd Nat.one_pos divides
  omega

/-- A number has at most one inverse, up to the modulus. -/
theorem modEq_of_mul_modEq_one
    {value inverse other modulus : Nat}
    (first : value * inverse ≡ 1 [MOD modulus])
    (second : value * other ≡ 1 [MOD modulus]) :
    inverse ≡ other [MOD modulus] := by
  calc
    inverse = inverse * 1 := (mul_one _).symm
    _ ≡ inverse * (value * other) [MOD modulus] := (second.mul_left _).symm
    _ = value * inverse * other := by rw [mul_left_comm, mul_assoc]
    _ ≡ 1 * other [MOD modulus] := first.mul_right _
    _ = other := one_mul _

/-- Modulo a prime, exponents other than zero count modulo the order. -/
theorem pow_modEq_pow
    {prime exponent other : Nat}
    (isPrime : prime.Prime)
    (exponent_ne : exponent ≠ 0)
    (other_ne : other ≠ 0)
    (same : exponent ≡ other [MOD prime - 1])
    (value : Nat) :
    value ^ exponent ≡ value ^ other [MOD prime] := by
  by_cases divides : prime ∣ value
  · have vanishes {exponent : Nat} (positive : exponent ≠ 0) : value ^ exponent ≡ 0 [MOD prime] :=
      Nat.modEq_zero_iff_dvd.mpr (dvd_pow divides positive)
    exact (vanishes exponent_ne).trans (vanishes other_ne).symm
  · have coprime : value.Coprime prime := (isPrime.coprime_iff_not_dvd.mpr divides).symm
    have fermat := Nat.ModEq.pow_card_sub_one_eq_one isPrime coprime
    have reduced (exponent : Nat) :
        value ^ exponent ≡ value ^ (exponent % (prime - 1)) [MOD prime] := by
      calc
        value ^ exponent =
            (value ^ (prime - 1)) ^ (exponent / (prime - 1)) *
              value ^ (exponent % (prime - 1)) := by
          rw [← pow_mul, ← pow_add, Nat.div_add_mod]
        _ ≡ 1 ^ (exponent / (prime - 1)) * value ^ (exponent % (prime - 1)) [MOD prime] :=
          (fermat.pow _).mul_right _
        _ = value ^ (exponent % (prime - 1)) := by rw [one_pow, one_mul]
    have sameResidue : exponent % (prime - 1) = other % (prime - 1) := same
    rw [Nat.ModEq, reduced exponent, sameResidue, ← reduced other]

/-- A power one more than a multiple of the order changes nothing modulo a prime. -/
theorem pow_modEq_self
    {prime exponent : Nat}
    (isPrime : prime.Prime)
    (odd : prime ≠ 2)
    (unit : exponent ≡ 1 [MOD prime - 1])
    (value : Nat) :
    value ^ exponent ≡ value [MOD prime] := by
  have large := isPrime.two_le
  have exponent_ne := ne_zero_of_modEq_one (by omega) unit
  simpa using pow_modEq_pow isPrime exponent_ne one_ne_zero unit value

/-- A number is prime if the powers of a witness are all the numbers below it but zero. -/
theorem prime_of_witness
    {factor width : Nat}
    (witness : Nat)
    (factorPrime : factor.Prime)
    (whole : power witness (factor * 2 ^ (width + 1)) (factor * 2 ^ (width + 1) + 1) = 1)
    (half : power witness (factor * 2 ^ width) (factor * 2 ^ (width + 1) + 1) ≠ 1)
    (rest : power witness (2 ^ (width + 1)) (factor * 2 ^ (width + 1) + 1) ≠ 1) :
    (factor * 2 ^ (width + 1) + 1).Prime := by
  generalize prime_eq : factor * 2 ^ (width + 1) + 1 = prime at *
  have large : 1 < prime := by
    have positive := Nat.mul_pos factorPrime.pos (Nat.two_pow_pos (width + 1))
    omega
  have order : prime - 1 = factor * 2 ^ (width + 1) := by
    omega
  have asPower (exponent : Nat) :
      (witness : ZMod prime) ^ exponent = 1 ↔ power witness exponent prime = 1 := by
    rw [power_eq, ← Nat.cast_pow, ← Nat.cast_one, ZMod.natCast_eq_natCast_iff, Nat.ModEq,
      Nat.mod_eq_of_lt large]
  apply lucas_primality prime (witness : ZMod prime)
  · rw [order, asPower]
    exact whole
  · intro divisor divisorPrime divides
    rw [order] at divides ⊢
    rw [Ne, asPower]
    rcases divisorPrime.dvd_mul.mp divides with ofFactor | ofPower
    · rw [(Nat.prime_dvd_prime_iff_eq divisorPrime factorPrime).mp ofFactor,
        Nat.mul_div_cancel_left _ factorPrime.pos]
      exact rest
    · have isTwo :=
        (Nat.prime_dvd_prime_iff_eq divisorPrime Nat.prime_two).mp
          (divisorPrime.dvd_of_dvd_pow ofPower)
      rw [isTwo, pow_succ, ← mul_assoc, Nat.mul_div_cancel _ Nat.two_pos]
      exact half

end Gatehouse.Modular
