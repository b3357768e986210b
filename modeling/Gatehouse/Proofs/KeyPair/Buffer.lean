import Gatehouse.Proofs.Bytes.Pieces
import Gatehouse.Proofs.KeyPair.RoundTrip

namespace Gatehouse.KeyPair

/-!
# The operations in a buffer

Both operations read an integer from the front of a buffer and leave the fewest
bytes of their result there, which is what the other operation reads again. A
buffer as wide as the modulus takes every result, so there the operations undo
each other on every integer below the modulus.
-/

/-- An operation on integers at the front of a buffer. -/
def inFront (power : Nat → Nat) (buffer : Bytes) (length : Nat) : Attempt KeyError Nat :=
  writeInteger (power (Bytes.ofBigEndian (buffer.take length))) buffer

theorem encode_eq (key : KeyPair) : key.encode = inFront key.publicPower :=
  rfl

theorem decode_eq (key : KeyPair) : key.decode = inFront key.privatePower :=
  rfl

/--
The first operation succeeds at the front of a buffer, and the second one on as
many bytes as the first left: then as many bytes as the second answers spell the
integer that was there before, without leading zero bytes.
-/
def Restores
    (second first : Bytes → Nat → Attempt KeyError Nat)
    (buffer : Bytes)
    (length : Nat) : Prop :=
  ∃ between middle count last,
    first buffer length = { outcome := .ok between, buffer := middle } ∧
      second middle between = { outcome := .ok count, buffer := last } ∧
      last.length = buffer.length ∧
      count ≤ last.length ∧
      Bytes.IsMinimal (last.take count) (Bytes.ofBigEndian (buffer.take length))

/-- A result that fits takes the place of as many bytes. -/
theorem writeInteger_of_fits
    {value : Nat}
    {buffer : Bytes}
    (fits : (Bytes.bigEndian value).length ≤ buffer.length) :
    writeInteger value buffer =
      { outcome := .ok (Bytes.bigEndian value).length
        buffer := Bytes.bigEndian value ++ buffer.drop (Bytes.bigEndian value).length } := by
  simp only [writeInteger, fits, if_true, Bytes.overwrite_front fits]

/-- Numbers below the modulus have no more bytes than the modulus. -/
theorem length_bigEndian_le_byteLength
    {key : KeyPair}
    {value : Nat}
    (small : value < key.modulus) :
    (Bytes.bigEndian value).length ≤ key.byteLength := by
  have whole : key.bitLength ≤ 8 * key.byteLength := by
    simp only [byteLength]
    omega
  rw [Bytes.length_bigEndian_le]
  calc
    value < key.modulus := small
    _ < 2 ^ key.bitLength := lt_of_bitLength_le (Nat.le_refl _)
    _ ≤ 2 ^ (8 * key.byteLength) := Nat.pow_le_pow_right Nat.two_pos whole
    _ = 256 ^ key.byteLength := Nat.pow_mul 2 8 key.byteLength

/-- Operations that undo each other on an integer do so in a buffer that takes both results. -/
theorem restores_inFront
    {first second : Nat → Nat}
    {buffer : Bytes}
    {length : Nat}
    (undone :
      second (first (Bytes.ofBigEndian (buffer.take length))) =
        Bytes.ofBigEndian (buffer.take length))
    (roomyFirst :
      (Bytes.bigEndian (first (Bytes.ofBigEndian (buffer.take length)))).length ≤ buffer.length)
    (roomySecond :
      (Bytes.bigEndian (Bytes.ofBigEndian (buffer.take length))).length ≤ buffer.length) :
    Restores (inFront second) (inFront first) buffer length := by
  generalize value_eq : Bytes.ofBigEndian (buffer.take length) = value at *
  have ofFirst : inFront first buffer length = writeInteger (first value) buffer := by
    rw [inFront, value_eq]
  rw [writeInteger_of_fits roomyFirst] at ofFirst
  generalize middle_eq :
    Bytes.bigEndian (first value) ++ buffer.drop (Bytes.bigEndian (first value)).length = middle
    at ofFirst
  have length_middle : middle.length = buffer.length := by
    rw [← middle_eq, List.length_append, List.length_drop]
    omega
  -- The second operation reads what the first one wrote.
  have ofSecond :
      inFront second middle (Bytes.bigEndian (first value)).length =
        writeInteger value middle := by
    rw [inFront, ← middle_eq, List.take_left' rfl, Bytes.ofBigEndian_bigEndian, undone]
  rw [writeInteger_of_fits (Nat.le_trans roomySecond (Nat.le_of_eq length_middle.symm))] at ofSecond
  refine ⟨_, _, _, _, ofFirst, ofSecond, ?_, ?_, ?_⟩
  · rw [List.length_append, List.length_drop]
    omega
  · rw [List.length_append]
    exact Nat.le_add_right _ _
  · rw [value_eq, List.take_left' rfl]
    exact Bytes.isMinimal_bigEndian value

/--
With a key of two different odd primes, in a buffer at least as wide as the
modulus, decrypting what was encrypted and encrypting what was decrypted both
succeed and leave the fewest bytes of the integer that was there, for every
integer below the modulus.
-/
theorem operations_restore
    {firstPrime secondPrime exponent : Nat}
    {key : KeyPair}
    (made : ofPrimes firstPrime secondPrime exponent = .ok key)
    (firstIsPrime : firstPrime.Prime)
    (secondIsPrime : secondPrime.Prime)
    (firstOdd : firstPrime ≠ 2)
    (secondOdd : secondPrime ≠ 2)
    (different : firstPrime ≠ secondPrime)
    {buffer : Bytes}
    {length : Nat}
    (roomy : key.byteLength ≤ buffer.length)
    (small : Bytes.ofBigEndian (buffer.take length) < firstPrime * secondPrime) :
    Restores key.decode key.encode buffer length ∧
      Restores key.encode key.decode buffer length := by
  obtain ⟨isMade, rfl, rfl⟩ := isMade_of_ofPrimes made
  rw [← isMade.modulus_eq] at small
  have fits {value : Nat} (value_lt : value < key.modulus) :
      (Bytes.bigEndian value).length ≤ buffer.length :=
    Nat.le_trans (length_bigEndian_le_byteLength value_lt) roomy
  rw [encode_eq, decode_eq]
  constructor
  · apply restores_inFront _ (fits (isMade.publicPower_lt _)) (fits small)
    exact isMade.privatePower_publicPower firstIsPrime secondIsPrime firstOdd secondOdd different
      small
  · apply restores_inFront _ (fits (isMade.privatePower_lt _)) (fits small)
    exact isMade.publicPower_privatePower firstIsPrime secondIsPrime firstOdd secondOdd different
      small

/-- A key of two small primes. -/
def smallKey : KeyPair where
  firstPrime := 61
  secondPrime := 53
  modulus := 3233
  exponent := 17
  firstExponent := 53
  secondExponent := 49
  coefficient := 38

/-- The integer 122 is a multiple of a prime of the key and restored all the same. -/
theorem multiple_of_prime_restored :
    ofPrimes 61 53 17 = .ok smallKey ∧
      Restores smallKey.decode smallKey.encode [0, 122, 7] 2 ∧
      Restores smallKey.encode smallKey.decode [0, 122, 7] 2 := by
  have made : ofPrimes 61 53 17 = .ok smallKey := by
    decide +kernel
  exact ⟨made,
    operations_restore made (by decide +kernel) (by decide +kernel) (by decide) (by decide)
      (by decide) (by decide +kernel) (by decide)⟩

end Gatehouse.KeyPair
