import Gatehouse.Proofs.Hello.Plaintext

namespace Gatehouse

/-!
# The verdict on a handshake

Both services test a message for the same requirements, in the same order, and
refuse it with the error of the first one that it misses. Until the block is
decrypted the message stays as it is; from then on the decrypted integer stands
over the front of the block, and nothing else has changed. A client of another
version is judged, and read, without a look at its credentials.
-/

/-- An error that is found before the block of a message is decrypted. -/
def HelloError.PrecedesDecryption : HelloError → Prop
  | .length _ _ | .checksum | .tag _ => True
  | .blockLength _ | .truncated => False

namespace Hello

/-- What a service asks of a message: its layout, and the strings in its plaintext. -/
structure Expectation where
  layout : HelloLayout
  /-- Where the first string starts in the plaintext. -/
  stringsOffset : Nat
  strings : Nat

/-- What the login service asks for. -/
def loginExpectation : Expectation where
  layout := { length := 149, tag := 0x01, blockOffset := 21 }
  stringsOffset := 16
  strings := 2

/-- What the game service asks for. -/
def gameExpectation : Expectation where
  layout := { length := 137, tag := 0x0A, blockOffset := 9 }
  stringsOffset := 17
  strings := 3

/-- The bytes of the integer that the block of a message decrypts to, as few as there are. -/
def decryptedBytes (service : KeyPair) (layout : HelloLayout) (body : Bytes) : Bytes :=
  Bytes.bigEndian (service.privatePower (Bytes.ofBigEndian (body.drop layout.blockOffset)))

/-- The version that a message declares. -/
def versionOf (body : Bytes) : UInt16 :=
  Bytes.toUInt16 (body.drop 7)

/-- The requirements on a message that are tested before its block is decrypted. -/
def headerRequirements (expected : Expectation) (body : Bytes) : List (Prop × HelloError) :=
  [ (body.length = expected.layout.length, .length expected.layout.length body.length),
    (body.take 4 = Bytes.ofUInt32 (Checksum.ofBytes (body.drop 4)), .checksum),
    (body[4]? = some expected.layout.tag, .tag (body.getD 4 0)) ]

/-- The requirements on what the block of a message decrypts to, with their errors. -/
def blockRequirements
    (service : KeyPair)
    (expected : Expectation)
    (body : Bytes) :
    List (Prop × HelloError) :=
  let decrypted := decryptedBytes service expected.layout body
  [ (decrypted.length = 127, .blockLength decrypted.length),
    (versionOf body = 860 →
      HoldsStrings expected.strings (decrypted.drop expected.stringsOffset), .truncated) ]

/-- All requirements on a message in the order in which they are tested, with their errors. -/
def requirements
    (service : KeyPair)
    (expected : Expectation)
    (body : Bytes) :
    List (Prop × HelloError) :=
  headerRequirements expected body ++ blockRequirements service expected body

/-- An error belongs to the first requirement that is missed. -/
def IsFirstMissed : List (Prop × HelloError) → HelloError → Prop
  | [], _ => False
  | (requirement, refusal) :: rest, error =>
      (¬requirement ∧ error = refusal) ∨ (requirement ∧ IsFirstMissed rest error)

/-- A message with the bytes that its block decrypts to over the front of the block. -/
def decryptedInPlace (service : KeyPair) (layout : HelloLayout) (body : Bytes) : Bytes :=
  body.take layout.blockOffset ++
    (decryptedBytes service layout body ++
      body.drop (layout.blockOffset + (decryptedBytes service layout body).length))

/--
The verdict on a message: it is accepted if it meets all requirements and refused
for the first one that it misses. What is left of it is the message itself until
the block is decrypted, and then the message with the decrypted bytes over the
front of the block. Of a client of another version only the key is looked at.
-/
structure IsVerdict
    (service : KeyPair)
    (expected : Expectation)
    (bare : HelloHeader → CipherKey → α)
    (body : Bytes)
    (attempt : Attempt HelloError α) :
    Prop where
  accepted_iff :
    (∃ handshake, attempt.outcome = .ok handshake) ↔
      ∀ entry ∈ requirements service expected body, entry.1
  refused_iff (error : HelloError) :
    attempt.outcome = .error error ↔ IsFirstMissed (requirements service expected body) error
  untouched (error : HelloError) :
    attempt.outcome = .error error → error.PrecedesDecryption → attempt.buffer = body
  overwritten :
    (∀ error, attempt.outcome = .error error → ¬error.PrecedesDecryption) →
    (service.decode (body.drop expected.layout.blockOffset) 128).outcome =
        .ok (decryptedBytes service expected.layout body).length ∧
      attempt.buffer.length = body.length ∧
      attempt.buffer = decryptedInPlace service expected.layout body
  bare_of_other (handshake : α) :
    attempt.outcome = .ok handshake →
    versionOf body ≠ 860 →
    handshake =
      bare { system := Bytes.toUInt16 (body.drop 5), version := versionOf body }
        (CipherKey.ofBytes ((decryptedBytes service expected.layout body).take 16))

theorem IsFirstMissed.unique
    {entries : List (Prop × HelloError)}
    {error other : HelloError}
    (missed : IsFirstMissed entries error)
    (otherMissed : IsFirstMissed entries other) :
    error = other := by
  induction entries with
  | nil =>
      exact missed.elim
  | cons entry rest inductionHypothesis =>
      rcases missed with ⟨fails, rfl⟩ | ⟨holds, missed⟩
      · rcases otherMissed with ⟨_, rfl⟩ | ⟨holds, _⟩
        · rfl
        · exact absurd holds fails
      · rcases otherMissed with ⟨fails, _⟩ | ⟨_, otherMissed⟩
        · exact absurd holds fails
        · exact inductionHypothesis missed otherMissed

/-- Where an error is the first missed, not every requirement is met. -/
theorem IsFirstMissed.not_all_met
    {entries : List (Prop × HelloError)}
    {error : HelloError}
    (missed : IsFirstMissed entries error) :
    ¬∀ entry ∈ entries, entry.1 := by
  intro met
  induction entries with
  | nil =>
      exact missed
  | cons entry rest inductionHypothesis =>
      rcases missed with ⟨fails, _⟩ | ⟨_, missed⟩
      · exact fails (met entry List.mem_cons_self)
      · exact inductionHypothesis missed fun other member =>
          met other (List.mem_cons_of_mem entry member)

/-- What is missed first stays so whatever is required afterwards. -/
theorem IsFirstMissed.append
    {entries : List (Prop × HelloError)}
    {error : HelloError}
    (missed : IsFirstMissed entries error)
    (later : List (Prop × HelloError)) :
    IsFirstMissed (entries ++ later) error := by
  induction entries with
  | nil =>
      exact missed.elim
  | cons entry rest inductionHypothesis =>
      rcases missed with here | ⟨holds, missed⟩
      · exact .inl here
      · exact .inr ⟨holds, inductionHypothesis missed⟩

/-- What is missed first behind requirements that are met. -/
theorem IsFirstMissed.behind
    {earlier entries : List (Prop × HelloError)}
    {error : HelloError}
    (met : ∀ entry ∈ earlier, entry.1)
    (missed : IsFirstMissed entries error) :
    IsFirstMissed (earlier ++ entries) error := by
  induction earlier with
  | nil =>
      exact missed
  | cons entry rest inductionHypothesis =>
      exact .inr ⟨met entry List.mem_cons_self,
        inductionHypothesis fun other member => met other (List.mem_cons_of_mem entry member)⟩

/-- A message meets the requirements before its block if it meets each of the three. -/
theorem met_headerRequirements {expected : Expectation} {body : Bytes} :
    (∀ entry ∈ headerRequirements expected body, entry.1) ↔
      body.length = expected.layout.length ∧
        body.take 4 = Bytes.ofUInt32 (Checksum.ofBytes (body.drop 4)) ∧
        body[4]? = some expected.layout.tag := by
  simp [headerRequirements]

theorem met_blockRequirements {service : KeyPair} {expected : Expectation} {body : Bytes} :
    (∀ entry ∈ blockRequirements service expected body, entry.1) ↔
      (decryptedBytes service expected.layout body).length = 127 ∧
        (versionOf body = 860 →
          HoldsStrings expected.strings
            ((decryptedBytes service expected.layout body).drop expected.stringsOffset)) := by
  simp [blockRequirements]

/-- The byte behind the checksum, as it is read. -/
theorem tag_of_long
    {body : Bytes}
    (long : 9 ≤ body.length) :
    UInt8.ofNat (Bytes.ofLittleEndian ((body.drop 4).take 1)) = body.getD 4 0 ∧
      body[4]? = some (body.getD 4 0) := by
  have found : body[4]? = some body[4] := List.getElem?_eq_getElem (by omega)
  have front : (body.drop 4).take 1 = [body[4]] := by
    rw [List.drop_eq_getElem_cons (by omega), List.take_succ_cons, List.take_zero]
  rw [List.getD_eq_getElem?_getD, found, front]
  simp [Bytes.ofLittleEndian]

/-- The checksum in front of a message is the word that spells it. -/
theorem toUInt32_eq_iff
    {body : Bytes}
    (long : 9 ≤ body.length)
    (value : UInt32) :
    Bytes.toUInt32 body = value ↔ body.take 4 = Bytes.ofUInt32 value := by
  have spelled : Bytes.ofUInt32 (Bytes.toUInt32 body) = body.take 4 :=
    Bytes.ofUInt32_toUInt32 (by omega)
  constructor
  · rintro rfl
    exact spelled.symm
  · intro same
    rw [← Bytes.toUInt32_ofUInt32 (Bytes.toUInt32 body), spelled, same, Bytes.toUInt32_ofUInt32]

/-- The tests before the block, without the sequence that they are written in. -/
theorem readHeader_eq (layout : HelloLayout) (body : Bytes) :
    readHeader layout body =
      if body.length = layout.length then
        if Bytes.toUInt32 body = Checksum.ofBytes (body.drop 4) then
          if UInt8.ofNat (Bytes.ofLittleEndian ((body.drop 4).take 1)) = layout.tag then
            .ok { system := Bytes.toUInt16 (body.drop 5), version := versionOf body }
          else
            .error (.tag (UInt8.ofNat (Bytes.ofLittleEndian ((body.drop 4).take 1))))
        else
          .error .checksum
      else
        .error (.length layout.length body.length) := by
  unfold readHeader
  by_cases length : body.length = layout.length
  · by_cases checksum : Bytes.toUInt32 body = Checksum.ofBytes (body.drop 4)
    · by_cases tag : UInt8.ofNat (Bytes.ofLittleEndian ((body.drop 4).take 1)) = layout.tag
      · simp only [length, checksum, tag, ne_eq, not_true_eq_false, if_true, if_false]
        rfl
      · simp only [length, checksum, tag, ne_eq, not_true_eq_false, not_false_eq_true, if_true,
          if_false]
        rfl
    · simp only [length, checksum, ne_eq, not_true_eq_false, not_false_eq_true, if_true, if_false]
      rfl
  · simp only [length, ne_eq, not_false_eq_true, if_true, if_false]
    rfl

/-- What stands before the block is read, or refused for the first requirement it misses. -/
theorem readHeader_verdict
    {expected : Expectation}
    (long : 9 ≤ expected.layout.length)
    (body : Bytes) :
    (∃ error,
      IsFirstMissed (headerRequirements expected body) error ∧
        error.PrecedesDecryption ∧ readHeader expected.layout body = .error error) ∨
      (∀ entry ∈ headerRequirements expected body, entry.1) ∧
        readHeader expected.layout body =
          .ok { system := Bytes.toUInt16 (body.drop 5), version := versionOf body } := by
  rw [readHeader_eq]
  by_cases length : body.length = expected.layout.length
  · have bodyLong : 9 ≤ body.length := by
      omega
    obtain ⟨tag_eq, tag_found⟩ := tag_of_long bodyLong
    have checksum_iff := toUInt32_eq_iff bodyLong (Checksum.ofBytes (body.drop 4))
    rw [if_pos length, tag_eq]
    by_cases checksum : Bytes.toUInt32 body = Checksum.ofBytes (body.drop 4)
    · rw [if_pos checksum]
      by_cases tag : body.getD 4 0 = expected.layout.tag
      · rw [if_pos tag]
        have met : body[4]? = some expected.layout.tag := by
          rw [tag_found, tag]
        exact .inr ⟨met_headerRequirements.mpr ⟨length, checksum_iff.mp checksum, met⟩, rfl⟩
      · rw [if_neg tag]
        have missed : ¬body[4]? = some expected.layout.tag := by
          rw [tag_found, Option.some.injEq]
          exact tag
        exact .inl ⟨_, .inr ⟨length, .inr ⟨checksum_iff.mp checksum, .inl ⟨missed, rfl⟩⟩⟩, trivial,
          rfl⟩
    · rw [if_neg checksum]
      exact .inl ⟨_, .inr ⟨length, .inl ⟨fun same => checksum (checksum_iff.mpr same), rfl⟩⟩,
        trivial, rfl⟩
  · rw [if_neg length]
    exact .inl ⟨_, .inl ⟨length, rfl⟩, trivial, rfl⟩

section Block

variable
  {expected : Expectation}
  {service : KeyPair}
  {body : Bytes}
  (fits : FitsBlock service)
  (shaped : expected.layout.length = expected.layout.blockOffset + Protocol.keyBlockLength)
  (length_eq : body.length = expected.layout.length)

include shaped length_eq in
theorem length_block :
    (body.drop expected.layout.blockOffset).length = Protocol.keyBlockLength := by
  rw [List.length_drop]
  omega

include fits shaped length_eq

/-- Decrypting a block answers the number of decrypted bytes, and writes them over its front. -/
theorem decode_block :
    service.decode (body.drop expected.layout.blockOffset) Protocol.keyBlockLength =
      { outcome := .ok (decryptedBytes service expected.layout body).length
        buffer :=
          decryptedBytes service expected.layout body ++
            (body.drop expected.layout.blockOffset).drop
              (decryptedBytes service expected.layout body).length } := by
  have width := length_block shaped length_eq
  rw [KeyPair.decode, List.take_of_length_le (Nat.le_of_eq width)]
  apply KeyPair.writeInteger_of_fits
  rw [width]
  exact fits _

theorem length_decryptedInPlace :
    (decryptedInPlace service expected.layout body).length = body.length := by
  have short : (decryptedBytes service expected.layout body).length ≤ Protocol.keyBlockLength :=
    fits _
  simp only [decryptedInPlace, List.length_append, List.length_take, List.length_drop]
  omega

/-- What reading a message comes to once its header was read. -/
theorem readWith_of_header
    {header : HelloHeader}
    (header_eq : readHeader expected.layout body = .ok header)
    (read : HelloHeader → Read α) :
    readWith expected.layout read service body =
      .ok {
        outcome :=
          if (decryptedBytes service expected.layout body).length =
              Protocol.keyPlaintextLength then
            match ((read header).run
                (Reader.ofBytes (decryptedBytes service expected.layout body))).1 with
            | none => .error .truncated
            | some handshake => .ok handshake
          else
            .error (.blockLength (decryptedBytes service expected.layout body).length)
        buffer := decryptedInPlace service expected.layout body } := by
  have opened := openBlock_of_decode (decode_block fits shaped length_eq)
  have sliced :
      body.slice expected.layout.blockOffset body.length =
        .ok (body.drop expected.layout.blockOffset) := by
    rw [Bytes.slice_eq_ok, ← List.length_drop, List.take_length]
    exact ⟨⟨by omega, Nat.le_refl _⟩, rfl⟩
  rw [List.drop_drop] at opened
  by_cases whole :
      (decryptedBytes service expected.layout body).length = Protocol.keyPlaintextLength
  · rw [if_pos whole] at opened ⊢
    simp only [readWith, header_eq, sliced, opened, bind, Except.bind, decryptedInPlace]
    cases ((read header).run (Reader.ofBytes (decryptedBytes service expected.layout body))).1 <;>
      rfl
  · rw [if_neg whole] at opened ⊢
    simp only [readWith, header_eq, sliced, opened, bind, Except.bind, decryptedInPlace]
    rfl

end Block

/-- An outcome with the first missed error is just as the requirements have it. -/
theorem IsFirstMissed.outcome_iffs
    {entries : List (Prop × HelloError)}
    {error : HelloError}
    {outcome : Except HelloError α}
    (missed : IsFirstMissed entries error)
    (refused : outcome = .error error) :
    ((∃ handshake, outcome = .ok handshake) ↔ ∀ entry ∈ entries, entry.1) ∧
      ∀ other, outcome = .error other ↔ IsFirstMissed entries other := by
  subst refused
  refine ⟨⟨?_, fun met => absurd met missed.not_all_met⟩, fun other => ⟨?_, ?_⟩⟩
  · rintro ⟨handshake, same⟩
    cases same
  · intro same
    cases same
    exact missed
  · intro otherMissed
    rw [missed.unique otherMissed]

/-- An outcome with a handshake is as the requirements have it where all of them are met. -/
theorem outcome_iffs_of_met
    {entries : List (Prop × HelloError)}
    {handshake : α}
    {outcome : Except HelloError α}
    (met : ∀ entry ∈ entries, entry.1)
    (accepted : outcome = .ok handshake) :
    ((∃ handshake, outcome = .ok handshake) ↔ ∀ entry ∈ entries, entry.1) ∧
      ∀ other, outcome = .error other ↔ IsFirstMissed entries other := by
  subst accepted
  refine ⟨⟨fun _ => met, fun _ => ⟨handshake, rfl⟩⟩, fun other => ⟨?_, ?_⟩⟩
  · intro same
    cases same
  · intro missed
    exact absurd met missed.not_all_met

namespace IsVerdict

variable
  {expected : Expectation}
  {service : KeyPair}
  {body : Bytes}

/-- A message that misses a requirement before its block is refused and stays as it is. -/
theorem of_header_missed
    {error : HelloError}
    (missed : IsFirstMissed (headerRequirements expected body) error)
    (precedes : error.PrecedesDecryption)
    (bare : HelloHeader → CipherKey → α) :
    IsVerdict service expected bare body { outcome := .error error, buffer := body } := by
  have firstMissed : IsFirstMissed (requirements service expected body) error :=
    missed.append (blockRequirements service expected body)
  obtain ⟨accepted_iff, refused_iff⟩ := firstMissed.outcome_iffs rfl
  refine ⟨accepted_iff, refused_iff, ?_, ?_, ?_⟩
  · intro _ _ _
    rfl
  · intro decrypted
    exact absurd precedes (decrypted error rfl)
  · intro handshake same
    cases same

variable
  (fits : FitsBlock service)
  (shaped : expected.layout.length = expected.layout.blockOffset + Protocol.keyBlockLength)
  (met : ∀ entry ∈ headerRequirements expected body, entry.1)

include fits shaped met

/-- A message that misses a requirement on its block is refused and holds what was decrypted. -/
theorem of_block_missed
    {error : HelloError}
    (missed : IsFirstMissed (blockRequirements service expected body) error)
    (follows : ¬error.PrecedesDecryption)
    (bare : HelloHeader → CipherKey → α) :
    IsVerdict service expected bare body
      { outcome := .error error, buffer := decryptedInPlace service expected.layout body } := by
  have length_eq := (met_headerRequirements.mp met).1
  have firstMissed : IsFirstMissed (requirements service expected body) error := missed.behind met
  obtain ⟨accepted_iff, refused_iff⟩ := firstMissed.outcome_iffs rfl
  refine ⟨accepted_iff, refused_iff, ?_, ?_, ?_⟩
  · intro other same precedes
    cases same
    exact absurd precedes follows
  · intro _
    exact ⟨congrArg Attempt.outcome (decode_block fits shaped length_eq),
      length_decryptedInPlace fits shaped length_eq, rfl⟩
  · intro handshake same
    cases same

/-- A message that meets all requirements is accepted and holds what was decrypted. -/
theorem of_met
    {bare : HelloHeader → CipherKey → α}
    {handshake : α}
    (blockMet : ∀ entry ∈ blockRequirements service expected body, entry.1)
    (bare_of_other :
      versionOf body ≠ 860 →
      handshake =
        bare { system := Bytes.toUInt16 (body.drop 5), version := versionOf body }
          (CipherKey.ofBytes ((decryptedBytes service expected.layout body).take 16))) :
    IsVerdict service expected bare body
      { outcome := .ok handshake, buffer := decryptedInPlace service expected.layout body } := by
  have length_eq := (met_headerRequirements.mp met).1
  have allMet : ∀ entry ∈ requirements service expected body, entry.1 := by
    intro entry member
    rcases List.mem_append.mp member with inHeader | inBlock
    · exact met entry inHeader
    · exact blockMet entry inBlock
  obtain ⟨accepted_iff, refused_iff⟩ := outcome_iffs_of_met allMet rfl
  refine ⟨accepted_iff, refused_iff, ?_, ?_, ?_⟩
  · intro error same
    cases same
  · intro _
    exact ⟨congrArg Attempt.outcome (decode_block fits shaped length_eq),
      length_decryptedInPlace fits shaped length_eq, rfl⟩
  · intro other same isOther
    cases same
    exact bare_of_other isOther

end IsVerdict

/-- A service judges every message by its requirements. -/
theorem exists_verdict
    (expected : Expectation)
    {service : KeyPair}
    {bare : HelloHeader → CipherKey → α}
    {read : HelloHeader → Read α}
    (fits : FitsBlock service)
    (shaped : expected.layout.length = expected.layout.blockOffset + Protocol.keyBlockLength)
    (reads : ReadsPlaintexts expected.stringsOffset expected.strings bare read)
    (body : Bytes) :
    ∃ attempt,
      readWith expected.layout read service body = .ok attempt ∧
        IsVerdict service expected bare body attempt := by
  have long : 9 ≤ expected.layout.length := by
    simp only [Protocol.keyBlockLength] at shaped
    omega
  rcases readHeader_verdict long body with
    ⟨error, missed, precedes, header_eq⟩ | ⟨met, header_eq⟩
  · refine ⟨{ outcome := .error error, buffer := body }, ?_, .of_header_missed missed precedes bare⟩
    simp only [readWith, header_eq]
    rfl
  · have length_eq := (met_headerRequirements.mp met).1
    refine ⟨_, readWith_of_header fits shaped length_eq header_eq read, ?_⟩
    generalize header_is :
      ({ system := Bytes.toUInt16 (body.drop 5), version := versionOf body } : HelloHeader) = header
    have version_eq : header.version = versionOf body := by
      rw [← header_is]
    by_cases whole :
        (decryptedBytes service expected.layout body).length = Protocol.keyPlaintextLength
    · rw [if_pos whole]
      by_cases accepted : versionOf body = Protocol.acceptedVersion
      · have answers := reads.accepted header _ whole (version_eq.trans accepted)
        cases ran :
            ((read header).run
              (Reader.ofBytes (decryptedBytes service expected.layout body))).1 with
        | none =>
            have cutOff :
                ¬(versionOf body = 860 →
                  HoldsStrings expected.strings
                    ((decryptedBytes service expected.layout body).drop
                      expected.stringsOffset)) := by
              intro holds
              have answered := answers.mpr (holds accepted)
              rw [ran] at answered
              cases answered
            exact .of_block_missed fits shaped met (.inr ⟨whole, .inl ⟨cutOff, rfl⟩⟩) not_false bare
        | some handshake =>
            have holds := answers.mp (by rw [ran]; rfl)
            exact .of_met fits shaped met (met_blockRequirements.mpr ⟨whole, fun _ => holds⟩)
              fun other => absurd accepted other
      · rw [reads.other header _ whole (version_eq ▸ accepted)]
        exact .of_met fits shaped met
          (met_blockRequirements.mpr ⟨whole, fun isAccepted => absurd isAccepted accepted⟩)
          fun _ => by rw [header_is]
    · rw [if_neg whole]
      exact .of_block_missed fits shaped met (.inl ⟨whole, rfl⟩) not_false bare

end Hello

end Gatehouse
