import Gatehouse.Proofs.Checksum.Detection
import Gatehouse.Proofs.Frame.Opening

namespace Gatehouse

/-!
# Tampering with a body

A body whose length and checksum are in order is refused after any change of
one byte, in the checksum or in the region, and after any change of two bytes
of the region that are less than 65521 positions apart. It is refused before
anything is decrypted, so the tampered body stays as it is.
-/

/-- An error in the length or in the checksum of a body. -/
def FrameError.PrecedesDecryption : FrameError → Prop
  | .tooShort _ | .misaligned _ | .checksumMismatch _ _ => True
  | .payloadOverflow _ _ | .emptyPayload | .bufferTooSmall _ _ => False

namespace Frame

/-- Opening a body finds no error in its length and none in its checksum. -/
def PassesTests (body : Bytes) (key : CipherKey) : Prop :=
  ∃ attempt,
    extract body key = .ok attempt ∧
      ∀ error, attempt.outcome = .error error → ¬error.PrecedesDecryption

/-- What the tests ask of a body, whatever the key. -/
structure IsIntact (body : Bytes) : Prop where
  long : minBodyLength ≤ body.length
  aligned : (body.drop 4).length % CipherKey.blockLength = 0
  matching : Bytes.toUInt32 body = Checksum.ofBytes (body.drop 4)

/-- The payload length of a region is no matter of the tests. -/
theorem not_precedesDecryption_of_payloadOf
    {region : Bytes}
    {error : FrameError}
    (answered : payloadOf region = .ok (.error error)) :
    ¬error.PrecedesDecryption := by
  obtain ⟨available, _, answered⟩ := Checked.bind_eq_ok.mp answered
  split at answered
  next short =>
    cases answered
    exact not_false
  next holds =>
    obtain ⟨payload, _, answered⟩ := Checked.bind_eq_ok.mp answered
    cases answered

/-- A body passes the tests under one key exactly if it is intact, and so under every key. -/
theorem passesTests_iff {body : Bytes} {key : CipherKey} :
    PassesTests body key ↔ IsIntact body := by
  constructor
  · rintro ⟨attempt, opened, passed⟩
    unfold extract at opened
    split at opened
    next short =>
      cases opened
      exact absurd trivial (passed _ rfl)
    next long =>
      simp only at opened
      split at opened
      next unaligned =>
        cases opened
        exact absurd trivial (passed _ rfl)
      next aligned =>
        split at opened
        next differs =>
          cases opened
          exact absurd trivial (passed _ rfl)
        next matching =>
          exact ⟨Nat.not_lt.mp long, not_not.mp aligned, not_not.mp matching⟩
  · intro intact
    obtain ⟨attempt, opened⟩ := exists_extract body key
    refine ⟨attempt, opened, ?_⟩
    intro error refused
    simp only [extract, Nat.not_lt.mpr intact.long, intact.aligned, intact.matching,
      key.decrypt_of_aligned intact.aligned, ne_eq, not_true_eq_false, if_false] at opened
    obtain ⟨outcome, answered, opened⟩ := Checked.bind_eq_ok.mp opened
    cases opened
    rw [show outcome = _ from refused] at answered
    exact not_precedesDecryption_of_payloadOf answered

/-- Opening a body answers that its checksum is not that of its region, and leaves the body. -/
def RefusesChecksum (body : Bytes) (key : CipherKey) : Prop :=
  Bytes.toUInt32 body ≠ Checksum.ofBytes (body.drop 4) ∧
    extract body key =
      .ok {
        outcome := .error
          (.checksumMismatch (Bytes.toUInt32 body) (Checksum.ofBytes (body.drop 4)))
        buffer := body }

/-- A body of the length of an intact one is refused if its checksum is that of no such region. -/
theorem IsIntact.refusesChecksum
    {body tampered : Bytes}
    (intact : IsIntact body)
    (key : CipherKey)
    (sameLength : tampered.length = body.length)
    (differs : Bytes.toUInt32 tampered ≠ Checksum.ofBytes (tampered.drop 4)) :
    RefusesChecksum tampered key := by
  have long : ¬tampered.length < minBodyLength := by
    rw [sameLength]
    exact Nat.not_lt.mpr intact.long
  have aligned : (tampered.drop 4).length % CipherKey.blockLength = 0 := by
    rw [List.length_drop, sameLength, ← List.length_drop]
    exact intact.aligned
  refine ⟨differs, ?_⟩
  simp only [extract, long, aligned, differs, ne_eq, not_true_eq_false, not_false_eq_true,
    if_true, if_false]
  rfl

/-- Changing a byte of a word in front changes the word. -/
theorem toUInt32_set_ne
    {bytes : Bytes}
    {position : Nat}
    {byte : UInt8}
    (enough : 4 ≤ bytes.length)
    (inWord : position < 4)
    (changed : byte ≠ bytes[position]) :
    Bytes.toUInt32 (bytes.set position byte) ≠ Bytes.toUInt32 bytes := by
  intro same
  have sameFront : (bytes.set position byte).take 4 = bytes.take 4 := by
    rw [← Bytes.ofUInt32_toUInt32 enough, ← same, Bytes.ofUInt32_toUInt32]
    rw [List.length_set]
    exact enough
  have sameByte := congrArg (·[position]?) sameFront
  simp only [List.getElem?_take_of_lt inWord] at sameByte
  rw [List.getElem?_set_self (by omega), List.getElem?_eq_getElem (by omega),
    Option.some.injEq] at sameByte
  exact changed sameByte

/-- Changing a byte behind the word in front does not change the word. -/
theorem toUInt32_set_of_le
    {position : Nat}
    (behind : 4 ≤ position)
    (bytes : Bytes)
    (byte : UInt8) :
    Bytes.toUInt32 (bytes.set position byte) = Bytes.toUInt32 bytes := by
  rw [Bytes.toUInt32, Bytes.toUInt32, List.take_set_of_le behind]

/--
A body that passed the tests of its length and checksum is refused for its checksum
under every key, and left as it is, after one byte was changed anywhere in it, and
after two bytes less than 65521 positions apart were changed in its region.
-/
theorem tampering_detected
    {body : Bytes}
    {opening : CipherKey}
    (passes : PassesTests body opening)
    (key : CipherKey) :
    (∀ (position : Nat) (byte : UInt8) (inside : position < body.length),
      byte ≠ body[position] →
      RefusesChecksum (body.set position byte) key) ∧
      ∀ (first second : Nat) (firstByte secondByte : UInt8)
        (ordered : first < second) (inside : second < body.length),
        4 ≤ first →
        second - first < 65521 →
        firstByte ≠ body.get ⟨first, Nat.lt_trans ordered inside⟩ →
        secondByte ≠ body[second] →
        RefusesChecksum ((body.set first firstByte).set second secondByte) key := by
  have intact := passesTests_iff.mp passes
  have long := intact.long
  simp only [minBodyLength] at long
  constructor
  · intro position byte inside changed
    apply intact.refusesChecksum key List.length_set
    by_cases inChecksum : position < 4
    · rw [List.drop_set, if_pos inChecksum, ← intact.matching]
      exact toUInt32_set_ne (by omega) inChecksum changed
    · rw [List.drop_set, if_neg inChecksum, toUInt32_set_of_le (by omega), intact.matching]
      refine (Checksum.ofBytes_set_ne (by rw [List.length_drop]; omega) ?_).symm
      simpa only [List.getElem_drop, Nat.add_sub_cancel' (Nat.not_lt.mp inChecksum)] using changed
  · intro first second firstByte secondByte ordered inside inRegion near firstChanged secondChanged
    apply intact.refusesChecksum key (by rw [List.length_set, List.length_set])
    have secondBehind : 4 ≤ second := by
      omega
    rw [List.drop_set, if_neg (by omega), List.drop_set, if_neg (by omega),
      toUInt32_set_of_le secondBehind, toUInt32_set_of_le inRegion, intact.matching]
    refine (Checksum.ofBytes_set_set_ne (by omega) (by rw [List.length_drop]; omega) ?_ ?_ ?_).symm
    · simp only [Checksum.modulus]
      omega
    · simpa only [List.get_eq_getElem, List.getElem_drop, Nat.add_sub_cancel' inRegion]
        using firstChanged
    · simpa only [List.getElem_drop, Nat.add_sub_cancel' secondBehind] using secondChanged

/-- A body of one block, which starts with a byte of 3. -/
def oneBlockBody : Bytes :=
  [4, 0, 32, 0, 3, 0, 0, 0, 0, 0, 0, 0]

/--
A changed checksum is detected, and so are two changes at the ends of the region
that leave the sum of its bytes.
-/
theorem one_block_tampering_detected :
    PassesTests oneBlockBody .zero ∧
      RefusesChecksum (oneBlockBody.set 1 9) .zero ∧
      RefusesChecksum ((oneBlockBody.set 4 2).set 11 1) .zero := by
  have passes : PassesTests oneBlockBody .zero :=
    passesTests_iff.mpr ⟨by decide, by decide, by decide⟩
  obtain ⟨one, two⟩ := tampering_detected passes .zero
  exact ⟨passes, one 1 9 (by decide) (by decide),
    two 4 11 2 1 (by decide) (by decide) (by decide) (by decide) (by decide) (by decide)⟩

end Frame

end Gatehouse
