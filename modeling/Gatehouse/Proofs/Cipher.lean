import Gatehouse.Cipher
import Gatehouse.Proofs.Bytes.Words

namespace Gatehouse.CipherKey

/-!
# The cipher is a permutation

A double round is undone by subtracting what it added, in the opposite order.
Decryption undoes the rounds from the last one to the first, so both directions
are inverse to each other on a block, and with it on every whole number of
blocks.
-/

/-- One double round of encryption at round constant sum `sum`. -/
def doubleRound (key : CipherKey) (sum : UInt32) (halves : UInt32 × UInt32) : UInt32 × UInt32 :=
  let left := halves.1 + (mix halves.2 ^^^ key.lowerKey sum)
  (left, halves.2 + (mix left ^^^ key.upperKey (sum + delta)))

/-- What undoes the double round that started at round constant sum `sum`. -/
def doubleRoundBack (key : CipherKey) (sum : UInt32) (halves : UInt32 × UInt32) :
    UInt32 × UInt32 :=
  let right := halves.2 - (mix halves.1 ^^^ key.upperKey (sum + delta))
  (halves.1 - (mix right ^^^ key.lowerKey sum), right)

theorem doubleRoundBack_doubleRound
    (key : CipherKey)
    (sum : UInt32)
    (halves : UInt32 × UInt32) :
    key.doubleRoundBack sum (key.doubleRound sum halves) = halves := by
  simp only [doubleRound, doubleRoundBack, UInt32.add_sub_cancel]

theorem doubleRound_doubleRoundBack
    (key : CipherKey)
    (sum : UInt32)
    (halves : UInt32 × UInt32) :
    key.doubleRound sum (key.doubleRoundBack sum halves) = halves := by
  simp only [doubleRound, doubleRoundBack, UInt32.sub_add_cancel]

/-- The round constant sum after some double rounds. -/
def sumAfter (count : Nat) (sum : UInt32) : UInt32 :=
  sum + delta * UInt32.ofNat count

theorem sumAfter_succ (count : Nat) (sum : UInt32) :
    sumAfter (count + 1) sum = sumAfter count sum + delta := by
  simp only [sumAfter, UInt32.ofNat_add]
  grind

/-- Starting one double round later is the same as making one more. -/
theorem sumAfter_add_delta (count : Nat) (sum : UInt32) :
    sumAfter count (sum + delta) = sumAfter count sum + delta := by
  simp only [sumAfter]
  grind

/-- Encryption ends with a double round. -/
theorem encipher_succ
    (key : CipherKey)
    (count : Nat)
    (sum : UInt32)
    (halves : UInt32 × UInt32) :
    key.encipher (count + 1) sum halves =
      key.doubleRound (sumAfter count sum) (key.encipher count sum halves) := by
  induction count generalizing sum halves with
  | zero =>
      simp [encipher, doubleRound, sumAfter]
  | succ count inductionHypothesis =>
      have later := inductionHypothesis (sum + delta) (key.doubleRound sum halves)
      rw [sumAfter_add_delta, ← sumAfter_succ] at later
      exact later

/-- Decryption starts by undoing the last double round. -/
theorem decipher_succ
    (key : CipherKey)
    (count : Nat)
    (sum : UInt32)
    (halves : UInt32 × UInt32) :
    key.decipher (count + 1) (sumAfter (count + 1) sum) halves =
      key.decipher count (sumAfter count sum)
        (key.doubleRoundBack (sumAfter count sum) halves) := by
  rw [sumAfter_succ]
  simp only [decipher, doubleRoundBack, UInt32.add_sub_cancel]

/-- Decrypting the two halves of a block after as many double rounds gives them back. -/
theorem decipher_encipher
    (key : CipherKey)
    (count : Nat)
    (sum : UInt32)
    (halves : UInt32 × UInt32) :
    key.decipher count (sumAfter count sum) (key.encipher count sum halves) = halves := by
  induction count with
  | zero =>
      rfl
  | succ count inductionHypothesis =>
      rw [decipher_succ, encipher_succ, doubleRoundBack_doubleRound]
      exact inductionHypothesis

theorem encipher_decipher
    (key : CipherKey)
    (count : Nat)
    (sum : UInt32)
    (halves : UInt32 × UInt32) :
    key.encipher count sum (key.decipher count (sumAfter count sum) halves) = halves := by
  induction count generalizing halves with
  | zero =>
      rfl
  | succ count inductionHypothesis =>
      rw [decipher_succ, encipher_succ, inductionHypothesis]
      exact key.doubleRound_doubleRoundBack _ halves

/-- Decryption starts where encryption ended. -/
theorem sumAfter_rounds : sumAfter rounds 0 = decryptSum := by
  decide

@[simp]
theorem decryptHalves_encryptHalves (key : CipherKey) (halves : UInt32 × UInt32) :
    key.decryptHalves (key.encryptHalves halves) = halves := by
  rw [decryptHalves, encryptHalves, ← sumAfter_rounds]
  exact key.decipher_encipher rounds 0 halves

@[simp]
theorem encryptHalves_decryptHalves (key : CipherKey) (halves : UInt32 × UInt32) :
    key.encryptHalves (key.decryptHalves halves) = halves := by
  rw [decryptHalves, encryptHalves, ← sumAfter_rounds]
  exact key.encipher_decipher rounds 0 halves

@[simp]
theorem length_mapBlocks
    (transform : UInt32 × UInt32 → UInt32 × UInt32)
    (data : Bytes) :
    (mapBlocks transform data).length = data.length := by
  fun_induction mapBlocks transform data with
  | case1 b0 b1 b2 b3 b4 b5 b6 b7 rest halves inductionHypothesis =>
      simp only [List.length_append, Bytes.length_ofUInt32, inductionHypothesis,
        List.length_cons]
      omega
  | case2 rest short =>
      rfl

/-- The first block of data is transformed as the two words that it spells. -/
theorem mapBlocks_append
    (transform : UInt32 × UInt32 → UInt32 × UInt32)
    {first second : Bytes}
    (firstWidth : first.length = 4)
    (secondWidth : second.length = 4)
    (rest : Bytes) :
    mapBlocks transform (first ++ (second ++ rest)) =
      let halves := transform (Bytes.toUInt32 first, Bytes.toUInt32 second)
      Bytes.ofUInt32 halves.1 ++ (Bytes.ofUInt32 halves.2 ++ mapBlocks transform rest) := by
  match first, second, firstWidth, secondWidth with
  | [_, _, _, _], [_, _, _, _], _, _ => rfl

/-- A transformation of blocks that is undone on every block is undone on all data. -/
theorem mapBlocks_mapBlocks
    {transform back : UInt32 × UInt32 → UInt32 × UInt32}
    (undone : ∀ halves, back (transform halves) = halves)
    (data : Bytes) :
    mapBlocks back (mapBlocks transform data) = data := by
  fun_induction mapBlocks transform data with
  | case1 b0 b1 b2 b3 b4 b5 b6 b7 rest halves inductionHypothesis =>
      have left :
          Bytes.ofUInt32 (Bytes.toUInt32 [b0, b1, b2, b3]) = [b0, b1, b2, b3] :=
        Bytes.ofUInt32_toUInt32 (by simp)
      have right :
          Bytes.ofUInt32 (Bytes.toUInt32 [b4, b5, b6, b7]) = [b4, b5, b6, b7] :=
        Bytes.ofUInt32_toUInt32 (by simp)
      rw [mapBlocks_append back (Bytes.length_ofUInt32 _) (Bytes.length_ofUInt32 _)]
      simp only [Bytes.toUInt32_ofUInt32, halves, undone, inductionHypothesis,
        left, right]
      rfl
  | case2 rest short =>
      unfold mapBlocks
      split
      · next b0 b1 b2 b3 b4 b5 b6 b7 rest => exact (short _ _ _ _ _ _ _ _ _ rfl).elim
      · rfl

theorem encrypt_of_aligned
    {data : Bytes}
    (aligned : data.length % blockLength = 0)
    (key : CipherKey) :
    key.encrypt data = .ok (mapBlocks key.encryptHalves data) := by
  simp [encrypt, onAligned, aligned]

theorem decrypt_of_aligned
    {data : Bytes}
    (aligned : data.length % blockLength = 0)
    (key : CipherKey) :
    key.decrypt data = .ok (mapBlocks key.decryptHalves data) := by
  simp [decrypt, onAligned, aligned]

end Gatehouse.CipherKey
