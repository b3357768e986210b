import Gatehouse.Hello.Writing
import Gatehouse.Proofs.Bytes.Pieces
import Gatehouse.Proofs.Hello.Reading
import Gatehouse.Proofs.KeyPair.Buffer

namespace Gatehouse.Hello

/-!
# Sealing and opening the block of a handshake

The results of a key that was made fit a block, so reading a handshake never
stops the program. A plaintext is sealed into a block, and opening the block
with the same key answers the plaintext, unless it starts with a zero byte: its
number has fewer bytes then, and the block is refused.
-/

/-- A key of two different odd primes that is wide enough for a plaintext. -/
structure IsWideKey (service : KeyPair) : Prop where
  made : service.IsMade
  first_prime : service.firstPrime.Prime
  second_prime : service.secondPrime.Prime
  first_odd : service.firstPrime ≠ 2
  second_odd : service.secondPrime ≠ 2
  different : service.firstPrime ≠ service.secondPrime
  wide : 2 ^ 1016 < service.modulus

theorem isWideKey_of_ofPrimes
    {firstPrime secondPrime exponent : Nat}
    {service : KeyPair}
    (made : KeyPair.ofPrimes firstPrime secondPrime exponent = .ok service)
    (firstIsPrime : firstPrime.Prime)
    (secondIsPrime : secondPrime.Prime)
    (firstOdd : firstPrime ≠ 2)
    (secondOdd : secondPrime ≠ 2)
    (different : firstPrime ≠ secondPrime)
    (wide : 2 ^ 1016 < firstPrime * secondPrime) :
    IsWideKey service := by
  obtain ⟨isMade, rfl, rfl⟩ := KeyPair.isMade_of_ofPrimes made
  refine ⟨isMade, firstIsPrime, secondIsPrime, firstOdd, secondOdd, different, ?_⟩
  rw [isMade.modulus_eq]
  exact wide

/-- Two primes whose product is wide enough for a block. -/
def widePrimes : Nat × Nat :=
  (3 * 2 ^ 534 + 1, 107 * 2 ^ 479 + 1)

theorem prime_widePrimes_fst : widePrimes.1.Prime := by
  apply Modular.prime_of_witness 5 Nat.prime_three <;> decide +kernel

theorem prime_widePrimes_snd : widePrimes.2.Prime := by
  apply Modular.prime_of_witness 3 (by decide) <;> decide +kernel

/-- There are wide keys. -/
theorem exists_isWideKey :
    ∃ service,
      KeyPair.ofPrimes widePrimes.1 widePrimes.2 65537 = .ok service ∧ IsWideKey service := by
  have isMade : (KeyPair.ofPrimes widePrimes.1 widePrimes.2 65537).isOk = true := by
    decide +kernel
  cases made : KeyPair.ofPrimes widePrimes.1 widePrimes.2 65537 with
  | error error =>
      rw [made] at isMade
      cases isMade
  | ok service =>
      exact ⟨service, rfl,
        isWideKey_of_ofPrimes made prime_widePrimes_fst prime_widePrimes_snd (by decide +kernel)
          (by decide +kernel) (by decide +kernel) (by decide +kernel)⟩

/-- Bytes are eight bits wide. -/
theorem pow_bytes (width : Nat) : 256 ^ width = 2 ^ (8 * width) :=
  (Nat.pow_mul 2 8 width).symm

theorem length_bigEndian_of_lt
    {service : KeyPair}
    (made : service.IsMade)
    {value : Nat}
    (small : value < service.modulus) :
    (Bytes.bigEndian value).length ≤ Protocol.keyBlockLength := by
  have bits : KeyPair.maxBitLength = 8 * Protocol.keyBlockLength := rfl
  rw [Bytes.length_bigEndian_le, pow_bytes, ← bits]
  exact Nat.lt_trans small made.modulus_lt

/-- The results of a key that was made fit a block. -/
theorem fitsBlock_of_isMade
    {service : KeyPair}
    (made : service.IsMade) :
    FitsBlock service :=
  fun value => length_bigEndian_of_lt made (made.privatePower_lt value)

/-- A plaintext is sealed into a block that spells the public power of its number. -/
theorem exists_sealBlock
    {service : KeyPair}
    {plaintext : Bytes}
    (made : service.IsMade)
    (width : plaintext.length = Protocol.keyPlaintextLength)
    (number_lt : Bytes.ofBigEndian plaintext < service.modulus) :
    ∃ block,
      sealBlock service plaintext = .ok block ∧
        block.length = Protocol.keyBlockLength ∧
        Bytes.ofBigEndian block = service.publicPower (Bytes.ofBigEndian plaintext) := by
  have padded : Bytes.ofBigEndian (0 :: plaintext) = Bytes.ofBigEndian plaintext :=
    Bytes.ofBigEndian_zeros_append 1 plaintext
  have whole : (0 :: plaintext).take Protocol.keyBlockLength = 0 :: plaintext := by
    apply List.take_of_length_le
    rw [List.length_cons, width]
    decide
  have power_lt : service.publicPower (Bytes.ofBigEndian plaintext) < service.modulus :=
    Modular.power_lt (Nat.zero_lt_of_lt number_lt) _ _
  have power_short := length_bigEndian_of_lt made power_lt
  have roomy :
      (Bytes.bigEndian (service.publicPower (Bytes.ofBigEndian plaintext))).length ≤
        (0 :: plaintext).length := by
    rw [List.length_cons, width]
    exact power_short
  have encoded :
      service.encode (0 :: plaintext) Protocol.keyBlockLength =
        KeyPair.writeInteger (service.publicPower (Bytes.ofBigEndian plaintext))
          (0 :: plaintext) := by
    rw [KeyPair.encode, whole, padded]
  rw [KeyPair.writeInteger_of_fits roomy] at encoded
  generalize service.publicPower (Bytes.ofBigEndian plaintext) = power at *
  refine ⟨Bytes.zeros (Protocol.keyBlockLength - (Bytes.bigEndian power).length) ++
    Bytes.bigEndian power, ?_, ?_, ?_⟩
  · simp only [sealBlock, encoded, bind, Except.bind, List.take_left' rfl]
    rfl
  · rw [List.length_append, Bytes.length_zeros]
    omega
  · rw [Bytes.ofBigEndian_zeros_append, Bytes.ofBigEndian_bigEndian]

/-- A plaintext is sealed into a block that decrypts to the number of the plaintext. -/
theorem decode_of_sealBlock
    {service : KeyPair}
    {plaintext : Bytes}
    (key : IsWideKey service)
    (width : plaintext.length = Protocol.keyPlaintextLength) :
    ∃ block,
      sealBlock service plaintext = .ok block ∧
        block.length = Protocol.keyBlockLength ∧
        service.decode block Protocol.keyBlockLength =
          KeyPair.writeInteger (Bytes.ofBigEndian plaintext) block := by
  have number_lt : Bytes.ofBigEndian plaintext < service.modulus := by
    have small := Bytes.ofBigEndian_lt plaintext
    have bits : 1016 = 8 * Protocol.keyPlaintextLength := rfl
    rw [width, pow_bytes, ← bits] at small
    exact Nat.lt_trans small key.wide
  obtain ⟨block, sealedBlock, length_block, spelled⟩ := exists_sealBlock key.made width number_lt
  refine ⟨block, sealedBlock, length_block, ?_⟩
  have whole : block.take Protocol.keyBlockLength = block :=
    List.take_of_length_le (Nat.le_of_eq length_block)
  rw [KeyPair.decode, whole, spelled,
    key.made.privatePower_publicPower key.first_prime key.second_prime key.first_odd key.second_odd
      key.different number_lt]

/-- What a block opens to, by the number of bytes that it decrypts to. -/
theorem openBlock_of_decode
    {service : KeyPair}
    {block form rest : Bytes}
    (decoded :
      service.decode block Protocol.keyBlockLength =
        { outcome := .ok form.length, buffer := form ++ rest }) :
    openBlock service block =
      .ok {
        outcome :=
          if form.length = Protocol.keyPlaintextLength then .ok form
          else .error (.blockLength form.length)
        buffer := form ++ rest } := by
  by_cases whole : form.length = Protocol.keyPlaintextLength
  · have front : (form ++ rest).slice 0 Protocol.keyPlaintextLength = .ok form := by
      rw [← whole, Bytes.slice_eq_ok, List.length_append]
      exact ⟨⟨Nat.zero_le _, Nat.le_add_right _ _⟩, (List.take_left' rfl).symm⟩
    simp only [openBlock, decoded, whole, if_true, front, bind, Except.bind]
    rfl
  · simp only [openBlock, decoded, whole, if_false]
    rfl

/-- A block that decrypts to a plaintext without leading zero bytes opens to it. -/
theorem openBlock_of_leading
    {service : KeyPair}
    {plaintext block : Bytes}
    (width : plaintext.length = Protocol.keyPlaintextLength)
    (leading : plaintext.head? ≠ some 0)
    (length_block : block.length = Protocol.keyBlockLength)
    (decoded :
      service.decode block Protocol.keyBlockLength =
        KeyPair.writeInteger (Bytes.ofBigEndian plaintext) block) :
    ∃ buffer, openBlock service block = .ok { outcome := .ok plaintext, buffer := buffer } := by
  have fits : plaintext.length ≤ block.length := by
    rw [width, length_block]
    decide
  have spelled := Bytes.bigEndian_ofBigEndian leading
  rw [KeyPair.writeInteger_of_fits (by rwa [spelled]), spelled] at decoded
  have opened := openBlock_of_decode decoded
  rw [if_pos width] at opened
  exact ⟨_, opened⟩

/-- A block that decrypts to a plaintext with a leading zero byte opens to too few bytes. -/
theorem openBlock_of_leading_zero
    {service : KeyPair}
    {rest block : Bytes}
    (width : (0 :: rest).length = Protocol.keyPlaintextLength)
    (length_block : block.length = Protocol.keyBlockLength)
    (decoded :
      service.decode block Protocol.keyBlockLength =
        KeyPair.writeInteger (Bytes.ofBigEndian (0 :: rest)) block) :
    ∃ length buffer,
      length < Protocol.keyPlaintextLength ∧
        openBlock service block =
          .ok { outcome := .error (.blockLength length), buffer := buffer } := by
  have number_eq : Bytes.ofBigEndian (0 :: rest) = Bytes.ofBigEndian rest :=
    Bytes.ofBigEndian_zeros_append 1 rest
  have short : (Bytes.bigEndian (Bytes.ofBigEndian rest)).length < Protocol.keyPlaintextLength := by
    have fewer := Bytes.length_bigEndian_le.mpr (Bytes.ofBigEndian_lt rest)
    rw [List.length_cons] at width
    omega
  have fits : (Bytes.bigEndian (Bytes.ofBigEndian rest)).length ≤ block.length := by
    rw [length_block]
    exact Nat.le_trans (Nat.le_of_lt short) (by decide)
  rw [number_eq, KeyPair.writeInteger_of_fits fits] at decoded
  have opened := openBlock_of_decode decoded
  rw [if_neg (Nat.ne_of_lt short)] at opened
  exact ⟨_, _, short, opened⟩

end Gatehouse.Hello
