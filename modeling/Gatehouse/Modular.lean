namespace Gatehouse

/-!
# Modular arithmetic

Powers and inverses of natural numbers modulo a natural number, by repeated
squaring and by Euclid's algorithm. The results are exact at every size.
-/

namespace Modular

/-- The power `base ^ exponent` modulo `modulus`. -/
def power (base exponent modulus : Nat) : Nat :=
  if exponent = 0 then
    1 % modulus
  else
    let squares := power (base * base % modulus) (exponent / 2) modulus
    if exponent % 2 = 1 then base % modulus * squares % modulus else squares
termination_by exponent
decreasing_by omega

/--
Euclid's algorithm on two remainders, each with a coefficient; answers the last
remainder that is not zero, with its coefficient.
-/
def euclid (remainder : Nat) (coefficient : Int) (next : Nat) (nextCoefficient : Int) : Nat × Int :=
  if next = 0 then
    (remainder, coefficient)
  else
    euclid next nextCoefficient (remainder % next)
      (coefficient - Int.ofNat (remainder / next) * nextCoefficient)
termination_by next
decreasing_by exact Nat.mod_lt _ (by omega)

/-- The inverse of `value` modulo `modulus`, if the two have no common factor. -/
def inverse? (value modulus : Nat) : Option Nat :=
  let (divisor, coefficient) := euclid modulus 0 (value % modulus) 1
  if divisor = 1 then some (coefficient % Int.ofNat modulus).toNat else none

/-- The number of binary digits; none for zero. -/
def bitLength (value : Nat) : Nat :=
  if value = 0 then 0 else value.log2 + 1

end Modular

end Gatehouse
