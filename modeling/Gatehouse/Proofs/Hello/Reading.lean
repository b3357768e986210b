import Gatehouse.Hello.Reading
import Gatehouse.Proofs.FixedText
import Gatehouse.Proofs.Outcomes
import Gatehouse.Proofs.Packet.Reading

namespace Gatehouse.Hello

/-!
# What reading a handshake can come to

Reading a handshake answers, an error or a handshake, whatever the message is;
only a key whose results are wider than the block can stop the program. The
credentials in a handshake that was read are never too long. A message whose
header is in order and whose block opens is read as its plaintext is read.
-/

/-- The results of the private operation of a key fit a block. -/
def FitsBlock (service : KeyPair) : Prop :=
  ∀ value, (Bytes.bigEndian (service.privatePower value)).length ≤ Protocol.keyBlockLength

/-- A credential that was read is not too long. -/
theorem credentialField_answers :
    Read.Answers (fun credential => credential.bytes.length ≤ Credential.maxLength)
      credentialField :=
  .bind (.trivial _) fun value _ => .pure (FixedText.length_bytes_set_le _ value)

theorem credentialField_isWhole : Read.Answers FixedText.IsWhole credentialField :=
  .bind (.trivial _) fun value _ => .pure ((FixedText.isWhole_empty 32).set value)

/-- The credentials of a handshake to the login service are whole. -/
theorem loginPlaintext_isWhole (header : HelloHeader) :
    Read.Answers
      (fun handshake => handshake.account.IsWhole ∧ handshake.password.IsWhole)
      (loginPlaintext header) := by
  have whole : Credential.empty.IsWhole := FixedText.isWhole_empty 32
  refine .bind (.trivial _) ?_
  intro key _
  simp only
  split
  next accepted =>
    refine .bind credentialField_isWhole ?_
    intro account accountWhole
    refine .bind credentialField_isWhole ?_
    intro password passwordWhole
    exact .pure ⟨accountWhole, passwordWhole⟩
  next other =>
    exact .pure ⟨whole, whole⟩

/-- The credentials of a handshake to the game service are whole. -/
theorem gamePlaintext_isWhole (header : HelloHeader) :
    Read.Answers
      (fun handshake =>
        handshake.account.IsWhole ∧ handshake.character.IsWhole ∧ handshake.password.IsWhole)
      (gamePlaintext header) := by
  have whole : Credential.empty.IsWhole := FixedText.isWhole_empty 32
  refine .bind (.trivial _) ?_
  intro key _
  simp only
  split
  next accepted =>
    refine .bind (.trivial _) ?_
    intro skipped _
    refine .bind credentialField_isWhole ?_
    intro account accountWhole
    refine .bind credentialField_isWhole ?_
    intro character characterWhole
    refine .bind credentialField_isWhole ?_
    intro password passwordWhole
    exact .pure ⟨accountWhole, characterWhole, passwordWhole⟩
  next other =>
    exact .pure ⟨whole, whole, whole⟩

/-- The character in a handshake to the game service is a credential. -/
theorem gamePlaintext_answers (header : HelloHeader) :
    Read.Answers (fun handshake => handshake.character.bytes.length ≤ Credential.maxLength)
      (gamePlaintext header) := by
  refine .bind (.trivial _) ?_
  intro key _
  simp only
  split
  next accepted =>
    refine .bind (.trivial _) ?_
    intro skipped _
    refine .bind (.trivial _) ?_
    intro account _
    refine .bind credentialField_answers ?_
    intro character short
    refine .bind (.trivial _) ?_
    intro password _
    exact .pure short
  next other =>
    exact .pure (Nat.zero_le _)

theorem length_decode (service : KeyPair) (block : Bytes) (length : Nat) :
    (service.decode block length).buffer.length = block.length := by
  unfold KeyPair.decode KeyPair.writeInteger
  simp only
  split
  next fits =>
    exact Bytes.length_overwrite _ _ _
  next wide =>
    rfl

/-- Opening a block answers unless the key is too wide for it. -/
theorem openBlock_meets
    {allowed : Fault → Prop}
    {service : KeyPair}
    {block : Bytes}
    (keyed : allowed .brokenKey ∨ FitsBlock service)
    (width : block.length = Protocol.keyBlockLength) :
    (openBlock service block).Meets allowed fun _ => True := by
  have kept := length_decode service block Protocol.keyBlockLength
  unfold openBlock
  simp only
  split
  next needed capacity tooLarge =>
    rcases keyed with isAllowed | fitting
    · exact isAllowed
    · have fits := fitting (Bytes.ofBigEndian (block.take Protocol.keyBlockLength))
      rw [KeyPair.decode, KeyPair.writeInteger] at tooLarge
      simp only [width, fits, if_true] at tooLarge
      cases tooLarge
  next error _ _ =>
    trivial
  next length decoded =>
    split
    next whole =>
      have inside :
          (service.decode block Protocol.keyBlockLength).buffer.slice 0
              Protocol.keyPlaintextLength =
            .ok _ :=
        Bytes.slice_eq_ok.mpr ⟨⟨Nat.zero_le _, by rw [kept, width]; decide⟩, rfl⟩
      rw [inside]
      trivial
    next other =>
      trivial

/-- Reading a handshake answers unless the key is too wide for the block. -/
theorem readWith_meets
    {allowed : Fault → Prop}
    {layout : HelloLayout}
    {read : HelloHeader → Read α}
    {holds : α → Prop}
    {service : KeyPair}
    {body : Bytes}
    (keyed : allowed .brokenKey ∨ FitsBlock service)
    (shaped : layout.length = layout.blockOffset + Protocol.keyBlockLength)
    (answers : ∀ header, Read.Answers holds (read header)) :
    (readWith layout read service body).Meets allowed fun attempt =>
      ∀ handshake, attempt.outcome = .ok handshake → holds handshake := by
  unfold readWith
  split
  next error refused =>
    intro handshake impossible
    cases impossible
  next header found =>
    have long : body.length = layout.length := by
      by_cases same : body.length = layout.length
      · exact same
      · simp [readHeader, same, throw, throwThe, MonadExceptOf.throw, bind, Except.bind] at found
    have sliced :
        (body.slice layout.blockOffset body.length).Meets allowed fun block =>
          block.length = Protocol.keyBlockLength := by
      have inside : body.slice layout.blockOffset body.length = .ok _ :=
        Bytes.slice_eq_ok.mpr ⟨⟨by omega, Nat.le_refl _⟩, rfl⟩
      rw [inside]
      simp only [Checked.Meets, List.length_take, List.length_drop]
      omega
    refine Checked.Meets.bind sliced ?_
    intro block width
    refine Checked.Meets.bind (openBlock_meets keyed width) ?_
    intro decrypted _
    cases decrypted.outcome with
    | error error =>
        intro handshake impossible
        cases impossible
    | ok plaintext =>
        simp only
        split
        next cutOff =>
          intro handshake impossible
          cases impossible
        next handshake answered =>
          intro other same
          cases same
          exact answers header _ handshake answered

/-- The header of a message is in order, and its block opens to a plaintext. -/
structure Conveys
    (layout : HelloLayout)
    (service : KeyPair)
    (body : Bytes)
    (header : HelloHeader)
    (plaintext : Bytes) :
    Prop where
  header_eq : readHeader layout body = .ok header
  opens :
    ∃ block left,
      body.slice layout.blockOffset body.length = .ok block ∧
        openBlock service block = .ok { outcome := .ok plaintext, buffer := left }

/-- A message is read as its plaintext is read. -/
theorem Conveys.readWith_eq
    {layout : HelloLayout}
    {read : HelloHeader → Read α}
    {service : KeyPair}
    {body plaintext : Bytes}
    {header : HelloHeader}
    {value : α}
    (conveys : Conveys layout service body header plaintext)
    (answered : ((read header).run (Reader.ofBytes plaintext)).1 = some value) :
    ∃ left, readWith layout read service body = .ok { outcome := .ok value, buffer := left } := by
  obtain ⟨block, left, sliced, opened⟩ := conveys.opens
  refine ⟨body.take layout.blockOffset ++ left, ?_⟩
  simp only [readWith, conveys.header_eq, sliced, opened, answered, bind, Except.bind]
  rfl

/-- What a block opens to has the length of a plaintext. -/
theorem length_of_openBlock
    {service : KeyPair}
    {block plaintext left : Bytes}
    (opened :
      openBlock service block = .ok { outcome := .ok plaintext, buffer := left }) :
    plaintext.length = Protocol.keyPlaintextLength := by
  unfold openBlock at opened
  simp only at opened
  split at opened
  · cases opened
  · cases opened
  next length decoded =>
    split at opened
    next whole =>
      obtain ⟨front, sliced, answered⟩ := Checked.bind_eq_ok.mp opened
      cases answered
      obtain ⟨⟨_, inside⟩, rfl⟩ := Bytes.slice_eq_ok.mp sliced
      rw [List.drop_zero, Nat.sub_zero, List.length_take, Nat.min_eq_left inside]
    next other =>
      cases opened

theorem Conveys.length_eq
    {layout : HelloLayout}
    {service : KeyPair}
    {body plaintext : Bytes}
    {header : HelloHeader}
    (conveys : Conveys layout service body header plaintext) :
    plaintext.length = Protocol.keyPlaintextLength := by
  obtain ⟨_, _, _, opened⟩ := conveys.opens
  exact length_of_openBlock opened

/-- Reading a handshake to the game service answers a character that is a credential. -/
theorem readGame_meets
    {allowed : Fault → Prop}
    {service : KeyPair}
    (keyed : allowed .brokenKey ∨ FitsBlock service)
    (body : Bytes) :
    (readGame service body).Meets allowed fun attempt =>
      ∀ handshake,
        attempt.outcome = .ok handshake →
        handshake.character.bytes.length ≤ Credential.maxLength :=
  readWith_meets keyed rfl gamePlaintext_answers

theorem readLogin_meets
    {allowed : Fault → Prop}
    {service : KeyPair}
    (keyed : allowed .brokenKey ∨ FitsBlock service)
    (body : Bytes) :
    (readLogin service body).Meets allowed fun _ => True :=
  (readWith_meets keyed rfl fun header => .trivial (loginPlaintext header)).weaken
    fun _ _ => trivial

end Gatehouse.Hello
