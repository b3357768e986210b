import Gatehouse.Proofs.Hello.RoundTrip
import Gatehouse.Proofs.Packet.Extent

namespace Gatehouse.Hello

/-!
# When a plaintext is read

A plaintext starts with the sixteen bytes of the cipher key, which are always
read. For the accepted version strings follow, and the plaintext is read exactly
if all of them lie within it; for every other version only the key is read.
-/

/-- As many strings as given, each with its length in front, lie one after another in the bytes. -/
def HoldsStrings : (count : Nat) → Bytes → Prop
  | 0, _ => True
  | count + 1, bytes =>
      Read.stringExtent bytes ≤ bytes.length ∧
        HoldsStrings count (bytes.drop (Read.stringExtent bytes))

/-- One byte, whatever it is, and then as many strings as given. -/
def HoldsFlaggedStrings (count : Nat) (bytes : Bytes) : Prop :=
  1 ≤ bytes.length ∧ HoldsStrings count (bytes.drop 1)

theorem consumes_keyField : Read.Consumes keyField fun _ => 16 :=
  Read.Consumes.uint32.bind fun _ =>
    Read.Consumes.uint32.bind fun _ =>
      Read.Consumes.uint32.bind fun _ => Read.Consumes.uint32.map _

theorem consumes_credentialField : Read.Consumes credentialField Read.stringExtent :=
  (Read.Consumes.string _).map Credential.empty.set

/-- The plaintext of an accepted login handshake is read if two strings follow the key. -/
theorem loginPlaintext_answersExactly
    {header : HelloHeader}
    (accepted : acceptsVersion header.version = true) :
    Read.AnswersExactly (loginPlaintext header) fun rest =>
      16 ≤ rest.length ∧ HoldsStrings 2 (rest.drop 16) := by
  refine .bind consumes_keyField ?_
  intro key
  simp only [accepted, if_true]
  refine .bind consumes_credentialField ?_
  intro account
  refine .bind consumes_credentialField ?_
  intro password
  exact .pure _

/-- That of an accepted game handshake is read if a byte and three strings follow the key. -/
theorem gamePlaintext_answersExactly
    {header : HelloHeader}
    (accepted : acceptsVersion header.version = true) :
    Read.AnswersExactly (gamePlaintext header) fun rest =>
      16 ≤ rest.length ∧ HoldsFlaggedStrings 3 (rest.drop 16) := by
  refine .bind consumes_keyField ?_
  intro key
  simp only [accepted, if_true]
  refine .bind (.skip 1) ?_
  intro skipped
  refine .bind consumes_credentialField ?_
  intro account
  refine .bind consumes_credentialField ?_
  intro character
  refine .bind consumes_credentialField ?_
  intro password
  exact .pure _

/-- Sixteen bytes spell the cipher key that is read of them. -/
theorem keyBytes_ofBytes
    {bytes : Bytes}
    (width : bytes.length = 16) :
    keyBytes (CipherKey.ofBytes bytes) = bytes := by
  have word (start : Nat) (inside : start + 4 ≤ 16) :
      Bytes.ofUInt32 (Bytes.toUInt32 (bytes.drop start)) = (bytes.drop start).take 4 := by
    apply Bytes.ofUInt32_toUInt32
    rw [List.length_drop, width]
    omega
  have last : (bytes.drop 12).take 4 = bytes.drop 12 := by
    rw [List.take_of_length_le]
    rw [List.length_drop, width]
  have joined (start : Nat) :
      (bytes.drop start).take 4 ++ bytes.drop (start + 4) = bytes.drop start := by
    rw [← List.drop_drop, List.take_append_drop]
  calc
    keyBytes (CipherKey.ofBytes bytes) =
        (bytes.drop 0).take 4 ++
          ((bytes.drop 4).take 4 ++ ((bytes.drop 8).take 4 ++ (bytes.drop 12).take 4)) := by
      rw [← word 0 (by decide), ← word 4 (by decide), ← word 8 (by decide), ← word 12 (by decide)]
      rfl
    _ = bytes := by
      rw [last, joined 8, joined 4, joined 0, List.drop_zero]

/--
How a read of plaintexts depends on the version: for the accepted one it answers
if the strings behind the key lie within the plaintext, for every other one it
answers what the key alone gives.
-/
structure ReadsPlaintexts
    (stringsOffset strings : Nat)
    (bare : HelloHeader → CipherKey → α)
    (read : HelloHeader → Read α) :
    Prop where
  accepted (header : HelloHeader) (plaintext : Bytes) :
    plaintext.length = Protocol.keyPlaintextLength →
    header.version = Protocol.acceptedVersion →
    (((read header).run (Reader.ofBytes plaintext)).1.isSome ↔
      HoldsStrings strings (plaintext.drop stringsOffset))
  other (header : HelloHeader) (plaintext : Bytes) :
    plaintext.length = Protocol.keyPlaintextLength →
    header.version ≠ Protocol.acceptedVersion →
    ((read header).run (Reader.ofBytes plaintext)).1 =
      some (bare header (CipherKey.ofBytes (plaintext.take 16)))

/-- What takes the bytes of a key in front of a plaintext takes the first sixteen. -/
theorem run_of_takes_keyBytes
    {read : Read α}
    {plaintext : Bytes}
    {value : α}
    (width : plaintext.length = Protocol.keyPlaintextLength)
    (takes :
      Read.Takes read (keyBytes (CipherKey.ofBytes (plaintext.take 16))) value) :
    (read.run (Reader.ofBytes plaintext)).1 = some value := by
  have key : (plaintext.take 16).length = 16 := by
    rw [List.length_take, width]
    rfl
  have ran := takes 0 (plaintext.drop 16)
  rw [keyBytes_ofBytes key, List.take_append_drop] at ran
  exact congrArg Prod.fst ran

theorem readsPlaintexts_login : ReadsPlaintexts 16 2 bareLogin loginPlaintext where
  accepted header plaintext width isAccepted := by
    have answers :=
      loginPlaintext_answersExactly (decide_eq_true isAccepted) 0 plaintext
    have enough : 16 ≤ plaintext.length := by
      rw [width]
      decide
    rw [← Reader.ofBytes] at answers
    simpa only [enough, true_and] using answers
  other header plaintext width isOther :=
    run_of_takes_keyBytes width (takes_loginPlaintext_of_other (decide_eq_false isOther) _)

theorem readsPlaintexts_game : ReadsPlaintexts 17 3 bareGame gamePlaintext where
  accepted header plaintext width isAccepted := by
    have answers :=
      gamePlaintext_answersExactly (decide_eq_true isAccepted) 0 plaintext
    have enough : 16 ≤ plaintext.length := by
      rw [width]
      decide
    have flagged : 1 ≤ (plaintext.drop 16).length := by
      rw [List.length_drop, width]
      decide
    rw [← Reader.ofBytes] at answers
    simpa only [HoldsFlaggedStrings, enough, flagged, true_and, List.drop_drop] using answers
  other header plaintext width isOther :=
    run_of_takes_keyBytes width (takes_gamePlaintext_of_other (decide_eq_false isOther) _)

end Gatehouse.Hello
