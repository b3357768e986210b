import Gatehouse.Proofs.Hello.Block
import Gatehouse.Proofs.Packet.Size

namespace Gatehouse.Hello

/-!
# Handshakes that are written are read back

A handshake written for a key whose low byte is not zero, with credentials that
fit its plaintext, is read back by the service: the same version and cipher
key, and for the accepted version of each credential what a credential can
hold. If the low byte is zero, the block is refused.
-/

/-- What is read of a credential: the bytes, or nothing if they are too many. -/
def credentialOf (value : Bytes) : Credential :=
  Credential.empty.set (if value.length < Credential.maxLength + 1 then value else [])

/-- What is read of a credential in a handshake of a version: nothing unless it is accepted. -/
def credentialUnder (version : UInt16) (value : Bytes) : Credential :=
  if acceptsVersion version then credentialOf value else .empty

/-- The login handshake that is read of what a client of a version presents. -/
def loginHelloUnder
    (header : HelloHeader)
    (key : CipherKey)
    (account password : Bytes) :
    LoginHello where
  system := header.system
  version := header.version
  key := key
  account := credentialUnder header.version account
  password := credentialUnder header.version password

/-- The game handshake that is read of what a client of a version presents. -/
def gameHelloUnder
    (header : HelloHeader)
    (key : CipherKey)
    (account character password : Bytes) :
    GameHello where
  system := header.system
  version := header.version
  key := key
  account := credentialUnder header.version account
  character := credentialUnder header.version character
  password := credentialUnder header.version password

/-- The login handshake that is read of what a client presents. -/
def loginHelloOf (key : CipherKey) (account password : Bytes) : LoginHello where
  system := declaredSystem
  version := Protocol.acceptedVersion
  key := key
  account := credentialOf account
  password := credentialOf password

/-- The game handshake that is read of what a client presents. -/
def gameHelloOf (key : CipherKey) (account character password : Bytes) : GameHello where
  system := declaredSystem
  version := Protocol.acceptedVersion
  key := key
  account := credentialOf account
  character := credentialOf character
  password := credentialOf password

/-- The bytes of a cipher key in a plaintext. -/
def keyBytes (key : CipherKey) : Bytes :=
  Bytes.ofUInt32 key.word0 ++
    (Bytes.ofUInt32 key.word1 ++ (Bytes.ofUInt32 key.word2 ++ Bytes.ofUInt32 key.word3))

/-- The bytes of a credential in a plaintext. -/
def credentialBytes (value : Bytes) : Bytes :=
  Bytes.ofUInt16 (UInt16.ofNat value.length) ++ value

/-- A credential holds what was presented if it is short, and nothing otherwise. -/
theorem bytes_credentialOf (value : Bytes) :
    (credentialOf value).bytes = if value.length ≤ Credential.maxLength then value else [] := by
  rw [credentialOf, Credential.bytes_set]
  by_cases short : value.length ≤ Credential.maxLength
  · have within : value.length < Credential.maxLength + 1 := Nat.lt_succ_of_le short
    rw [if_pos within, if_pos short]
  · have beyond : ¬value.length < Credential.maxLength + 1 := by
      omega
    rw [if_neg beyond, if_neg short]
    rfl

/-- A credential that is too long reads as the empty one. -/
theorem credentialOf_of_long
    {value : Bytes}
    (long : Credential.maxLength < value.length) :
    credentialOf value = credentialOf [] := by
  have beyond : ¬value.length < Credential.maxLength + 1 := Nat.not_lt_of_le long
  rw [credentialOf, credentialOf, if_neg beyond, ite_self]

theorem credentialUnder_of_accepted
    {version : UInt16}
    (accepted : acceptsVersion version = true)
    (value : Bytes) :
    credentialUnder version value = credentialOf value :=
  if_pos accepted

@[simp]
theorem length_keyBytes (key : CipherKey) : (keyBytes key).length = 16 := by
  simp [keyBytes]

@[simp]
theorem length_credentialBytes (value : Bytes) :
    (credentialBytes value).length = 2 + value.length := by
  simp [credentialBytes]

theorem takes_keyField (key : CipherKey) : Read.Takes keyField (keyBytes key) key :=
  (Read.Takes.uint32 key.word0).bind <|
    (Read.Takes.uint32 key.word1).bind <|
      (Read.Takes.uint32 key.word2).bind <|
        (Read.Takes.uint32 key.word3).map (CipherKey.mk key.word0 key.word1 key.word2)

theorem takes_credentialField
    {value : Bytes}
    (expressible : value.length ≤ 65535) :
    Read.Takes credentialField (credentialBytes value) (credentialOf value) :=
  (Read.Takes.string expressible (Credential.maxLength + 1)).map Credential.empty.set

/-- The bytes of the fields of a login plaintext. -/
def loginBytes (key : CipherKey) (account password : Bytes) : Bytes :=
  keyBytes key ++ (credentialBytes account ++ credentialBytes password)

/-- The bytes of the fields of a game plaintext; the byte behind the key says nothing. -/
def gameBytes (key : CipherKey) (flag : UInt8) (account character password : Bytes) : Bytes :=
  keyBytes key ++
    ([flag] ++ (credentialBytes account ++ (credentialBytes character ++ credentialBytes password)))

/-- The login handshake of a client whose credentials are not read. -/
def bareLogin (header : HelloHeader) (key : CipherKey) : LoginHello where
  system := header.system
  version := header.version
  key := key
  account := .empty
  password := .empty

/-- The game handshake of a client whose credentials are not read. -/
def bareGame (header : HelloHeader) (key : CipherKey) : GameHello where
  system := header.system
  version := header.version
  key := key
  account := .empty
  character := .empty
  password := .empty

/-- Of a login plaintext of another version only the cipher key is read. -/
theorem takes_loginPlaintext_of_other
    {header : HelloHeader}
    (other : acceptsVersion header.version = false)
    (key : CipherKey) :
    Read.Takes (loginPlaintext header) (keyBytes key) (bareLogin header key) := by
  rw [← List.append_nil (keyBytes key)]
  refine (takes_keyField key).bind ?_
  simp only [other]
  exact .pure _

/-- Of a game plaintext of another version only the cipher key is read. -/
theorem takes_gamePlaintext_of_other
    {header : HelloHeader}
    (other : acceptsVersion header.version = false)
    (key : CipherKey) :
    Read.Takes (gamePlaintext header) (keyBytes key) (bareGame header key) := by
  rw [← List.append_nil (keyBytes key)]
  refine (takes_keyField key).bind ?_
  simp only [other]
  exact .pure _

/-- A login plaintext is read as its version has it, whatever follows its fields. -/
theorem run_loginPlaintext
    (header : HelloHeader)
    (key : CipherKey)
    {account password : Bytes}
    (accountShort : account.length ≤ 65535)
    (passwordShort : password.length ≤ 65535)
    (rest : Bytes) :
    ((loginPlaintext header).run (Reader.ofBytes (loginBytes key account password ++ rest))).1 =
      some (loginHelloUnder header key account password) := by
  cases accepted : acceptsVersion header.version with
  | true =>
      have takes :
          Read.Takes (loginPlaintext header) (loginBytes key account password)
            (loginHelloUnder header key account password) := by
        refine (takes_keyField key).bind ?_
        simp only [accepted, if_true, loginHelloUnder, credentialUnder_of_accepted accepted]
        exact (takes_credentialField accountShort).bind
          ((takes_credentialField passwordShort).map _)
      exact congrArg Prod.fst (takes 0 rest)
  | false =>
      have bare : loginHelloUnder header key account password = bareLogin header key := by
        simp [loginHelloUnder, credentialUnder, accepted, bareLogin]
      have left :=
        takes_loginPlaintext_of_other accepted key 0
          (credentialBytes account ++ credentialBytes password ++ rest)
      rw [← List.append_assoc, ← bare] at left
      exact congrArg Prod.fst left

/-- A game plaintext is read as its version has it, whatever follows its fields. -/
theorem run_gamePlaintext
    (header : HelloHeader)
    (key : CipherKey)
    (flag : UInt8)
    {account character password : Bytes}
    (accountShort : account.length ≤ 65535)
    (characterShort : character.length ≤ 65535)
    (passwordShort : password.length ≤ 65535)
    (rest : Bytes) :
    ((gamePlaintext header).run
        (Reader.ofBytes (gameBytes key flag account character password ++ rest))).1 =
      some (gameHelloUnder header key account character password) := by
  cases accepted : acceptsVersion header.version with
  | true =>
      have takes :
          Read.Takes (gamePlaintext header) (gameBytes key flag account character password)
            (gameHelloUnder header key account character password) := by
        refine (takes_keyField key).bind ?_
        simp only [accepted, if_true, gameHelloUnder, credentialUnder_of_accepted accepted]
        exact (Read.Takes.skip_one flag).bind <|
          (takes_credentialField accountShort).bind <|
            (takes_credentialField characterShort).bind
              ((takes_credentialField passwordShort).map _)
      exact congrArg Prod.fst (takes 0 rest)
  | false =>
      have bare :
          gameHelloUnder header key account character password = bareGame header key := by
        simp [gameHelloUnder, credentialUnder, accepted, bareGame]
      have left :=
        takes_gamePlaintext_of_other accepted key 0
          ([flag] ++ (credentialBytes account ++
            (credentialBytes character ++ credentialBytes password)) ++ rest)
      rw [← List.append_assoc, ← bare] at left
      exact congrArg Prod.fst left

/-- A message with the fields of a login plaintext is read as its version has it. -/
theorem Conveys.readLogin_eq
    {service : KeyPair}
    {body account password rest : Bytes}
    {header : HelloHeader}
    {key : CipherKey}
    (conveys : Conveys .login service body header (loginBytes key account password ++ rest)) :
    ∃ left,
      readLogin service body =
        .ok { outcome := .ok (loginHelloUnder header key account password), buffer := left } := by
  have width := conveys.length_eq
  simp only [loginBytes, List.length_append, length_keyBytes, length_credentialBytes,
    Protocol.keyPlaintextLength] at width
  exact conveys.readWith_eq (run_loginPlaintext header key (by omega) (by omega) rest)

/-- A message with the fields of a game plaintext is read as its version has it. -/
theorem Conveys.readGame_eq
    {service : KeyPair}
    {body account character password rest : Bytes}
    {header : HelloHeader}
    {key : CipherKey}
    {flag : UInt8}
    (conveys :
      Conveys .game service body header (gameBytes key flag account character password ++ rest)) :
    ∃ left,
      readGame service body =
        .ok {
          outcome := .ok (gameHelloUnder header key account character password)
          buffer := left } := by
  have width := conveys.length_eq
  simp only [gameBytes, List.length_append, length_keyBytes, length_credentialBytes,
    Protocol.keyPlaintextLength] at width
  exact conveys.readWith_eq
    (run_gamePlaintext header key flag (by omega) (by omega) (by omega) rest)

theorem length_plaintextOf (fields : Packet) :
    (plaintextOf fields).length = Protocol.keyPlaintextLength := by
  have kept :=
    (Writer.length_buffer_packet (Nat.zero_le (Bytes.zeros Protocol.keyPlaintextLength).length)
      fields).1
  rwa [Bytes.length_zeros] at kept

/-- Fields that fit start the plaintext. -/
theorem plaintextOf_of_fits
    {fields : Packet}
    {bytes : Bytes}
    (encoded : fields.encoding? = some bytes)
    (fits : bytes.length ≤ Protocol.keyPlaintextLength) :
    plaintextOf fields = bytes ++ (Bytes.zeros Protocol.keyPlaintextLength).drop bytes.length := by
  have inside : 0 + bytes.length ≤ (Bytes.zeros Protocol.keyPlaintextLength).length := by
    rw [Nat.zero_add, Bytes.length_zeros]
    exact fits
  obtain ⟨_, _, written⟩ := Writer.startingAt_packet encoded inside
  rw [Nat.zero_add] at inside
  rw [plaintextOf, Writer.ofBuffer, written, Bytes.overwrite_front inside]

/-- What follows the checksum in a handshake around an encrypted block. -/
def contentAround (layout : HelloLayout) (version : UInt16) (block : Bytes) : Bytes :=
  layout.tag :: (Bytes.ofUInt16 declaredSystem ++ Bytes.ofUInt16 version) ++
    (Bytes.zeros (layout.blockOffset - 9) ++ block)

/-- The body of a handshake around an encrypted block. -/
def helloAround (layout : HelloLayout) (version : UInt16) (block : Bytes) : Bytes :=
  Bytes.ofUInt32 (Checksum.ofBytes (contentAround layout version block)) ++
    contentAround layout version block

theorem length_helloAround
    {layout : HelloLayout}
    (headed : 9 ≤ layout.blockOffset)
    (version : UInt16)
    (block : Bytes) :
    (helloAround layout version block).length = layout.blockOffset + block.length := by
  simp only [helloAround, contentAround, List.length_append, List.length_cons,
    Bytes.length_ofUInt32, Bytes.length_ofUInt16, Bytes.length_zeros]
  omega

theorem slice_helloAround
    {layout : HelloLayout}
    (headed : 9 ≤ layout.blockOffset)
    (version : UInt16)
    (block : Bytes) :
    (helloAround layout version block).slice layout.blockOffset
        (helloAround layout version block).length =
      .ok block := by
  have length_eq := length_helloAround headed version block
  have front :
      (Bytes.ofUInt32 (Checksum.ofBytes (contentAround layout version block)) ++
        (layout.tag :: (Bytes.ofUInt16 declaredSystem ++ Bytes.ofUInt16 version) ++
          Bytes.zeros (layout.blockOffset - 9))).length = layout.blockOffset := by
    simp only [List.length_append, List.length_cons, Bytes.length_ofUInt32, Bytes.length_ofUInt16,
      Bytes.length_zeros]
    omega
  have behind : (helloAround layout version block).drop layout.blockOffset = block := by
    rw [helloAround, contentAround, ← List.append_assoc (layout.tag :: _), ← List.append_assoc]
    exact List.drop_left' front
  rw [Bytes.slice_eq_ok]
  refine ⟨⟨by omega, Nat.le_refl _⟩, ?_⟩
  rw [behind, List.take_of_length_le]
  omega

/-- What stands before the block of a handshake is read back. -/
theorem readHeader_helloAround
    {layout : HelloLayout}
    {version : UInt16}
    {block : Bytes}
    (whole : (helloAround layout version block).length = layout.length) :
    readHeader layout (helloAround layout version block) =
      .ok { system := declaredSystem, version := version } := by
  have behind :
      (helloAround layout version block).drop 4 = contentAround layout version block :=
    List.drop_left' (Bytes.length_ofUInt32 _)
  have tag :
      UInt8.ofNat (Bytes.ofLittleEndian ((contentAround layout version block).take 1)) =
        layout.tag := by
    simp [contentAround, Bytes.ofLittleEndian]
  have system :
      (helloAround layout version block).drop 5 =
        Bytes.ofUInt16 declaredSystem ++
          (Bytes.ofUInt16 version ++ (Bytes.zeros (layout.blockOffset - 9) ++ block)) := by
    rw [show 5 = 4 + 1 from rfl, ← List.drop_drop, behind, contentAround]
    simp
  have versionField :
      (helloAround layout version block).drop 7 =
        Bytes.ofUInt16 version ++ (Bytes.zeros (layout.blockOffset - 9) ++ block) := by
    rw [show 7 = 5 + 2 from rfl, ← List.drop_drop, system,
      List.drop_left' (Bytes.length_ofUInt16 _)]
  have checksum :
      Bytes.toUInt32 (helloAround layout version block) =
        Checksum.ofBytes (contentAround layout version block) :=
    Bytes.toUInt32_ofUInt32_append _ _
  simp only [readHeader, whole, behind, checksum, tag, system, versionField,
    Bytes.toUInt16_ofUInt16_append, ne_eq, not_true_eq_false, if_false, bind, Except.bind, pure,
    Except.pure]

/-- A handshake is written around the block that its plaintext is sealed into. -/
theorem writeWith_of_sealBlock
    {layout : HelloLayout}
    {service : KeyPair}
    {fields : Packet}
    {block : Bytes}
    (sealedBlock : sealBlock service (plaintextOf fields) = .ok block)
    (version : UInt16) :
    writeWith layout service version fields = .ok (helloAround layout version block) := by
  have offset :
      4 + (layout.tag :: (Bytes.ofUInt16 declaredSystem ++ Bytes.ofUInt16 version)).length = 9 := by
    simp
  simp only [writeWith, sealedBlock, offset, bind, Except.bind]
  rfl

/-- What is written is a message in order around a block that decrypts to the plaintext. -/
structure WrittenAround
    (layout : HelloLayout)
    (service : KeyPair)
    (version : UInt16)
    (fields : Packet)
    (body block : Bytes) :
    Prop where
  written : writeWith layout service version fields = .ok body
  header_eq : readHeader layout body = .ok { system := declaredSystem, version := version }
  sliced : body.slice layout.blockOffset body.length = .ok block
  length_block : block.length = Protocol.keyBlockLength
  decoded :
    service.decode block Protocol.keyBlockLength =
      KeyPair.writeInteger (Bytes.ofBigEndian (plaintextOf fields)) block

/-- A wide key writes every handshake. -/
theorem exists_writtenAround
    {layout : HelloLayout}
    {service : KeyPair}
    (key : IsWideKey service)
    (headed : 9 ≤ layout.blockOffset)
    (shaped : layout.length = layout.blockOffset + Protocol.keyBlockLength)
    (version : UInt16)
    (fields : Packet) :
    ∃ body block, WrittenAround layout service version fields body block := by
  obtain ⟨block, sealedBlock, length_block, decoded⟩ :=
    decode_of_sealBlock key (length_plaintextOf fields)
  have whole : (helloAround layout version block).length = layout.length := by
    rw [length_helloAround headed, length_block, shaped]
  exact ⟨helloAround layout version block, block,
    writeWith_of_sealBlock sealedBlock version,
    readHeader_helloAround whole,
    slice_helloAround headed version block,
    length_block,
    decoded⟩

namespace WrittenAround

variable
  {layout : HelloLayout}
  {service : KeyPair}
  {version : UInt16}
  {fields : Packet}
  {body block : Bytes}

/-- A written handshake conveys its plaintext, unless that starts with a zero byte. -/
theorem conveys
    (around : WrittenAround layout service version fields body block)
    (leading : (plaintextOf fields).head? ≠ some 0) :
    Conveys layout service body { system := declaredSystem, version := version }
      (plaintextOf fields) := by
  obtain ⟨left, opened⟩ :=
    openBlock_of_leading (length_plaintextOf fields) leading around.length_block around.decoded
  exact ⟨around.header_eq, block, left, around.sliced, opened⟩

/-- A written handshake is refused for its block if its plaintext starts with a zero byte. -/
theorem refused
    (around : WrittenAround layout service version fields body block)
    (leading : (plaintextOf fields).head? = some 0)
    (read : HelloHeader → Read α) :
    ∃ length left,
      length < Protocol.keyPlaintextLength ∧
        readWith layout read service body =
          .ok { outcome := .error (.blockLength length), buffer := left } := by
  have width := length_plaintextOf fields
  have decoded := around.decoded
  generalize plaintextOf fields = plaintext at leading width decoded
  obtain ⟨rest, rfl⟩ := List.head?_eq_some_iff.mp leading
  obtain ⟨length, left, short, opened⟩ :=
    openBlock_of_leading_zero width around.length_block decoded
  refine ⟨length, body.take layout.blockOffset ++ left, short, ?_⟩
  simp only [readWith, around.header_eq, around.sliced, opened, bind, Except.bind]
  rfl

end WrittenAround

theorem encoding?_keyFields (key : CipherKey) :
    Packet.encoding? (keyFields key) = some (keyBytes key) := by
  simp [keyFields, CipherKey.words, Packet.encoding?, Field.encoding?, keyBytes]

/-- The plaintext starts with the low byte of the cipher key, whatever follows the key. -/
theorem head?_plaintextOf (key : CipherKey) (fields : Packet) :
    (plaintextOf (keyFields key ++ fields)).head? = some key.word0.toUInt8 := by
  have room : (keyBytes key).length ≤ (Bytes.zeros Protocol.keyPlaintextLength).length := by
    rw [length_keyBytes, Bytes.length_zeros]
    decide
  obtain ⟨rest, spelled⟩ := Writer.prefix_buffer_packet (encoding?_keyFields key) room fields
  rw [plaintextOf, ← spelled]
  have low : (keyBytes key ++ rest).head? = some (UInt8.ofNat key.word0.toNat) := rfl
  rw [low, Option.some.injEq]
  apply UInt8.toNat_inj.mp
  simp

/-- A cipher key whose low byte is not zero. -/
def sampleKey : CipherKey where
  word0 := 1
  word1 := 2
  word2 := 3
  word3 := 4

/-- A handshake whose key has a low byte that is not zero conveys its plaintext. -/
theorem conveys_of_writeWith
    {layout : HelloLayout}
    {service : KeyPair}
    {sessionKey : CipherKey}
    (key : IsWideKey service)
    (headed : 9 ≤ layout.blockOffset)
    (shaped : layout.length = layout.blockOffset + Protocol.keyBlockLength)
    (low : sessionKey.word0.toUInt8 ≠ 0)
    (version : UInt16)
    (fields : Packet) :
    ∃ body,
      writeWith layout service version (keyFields sessionKey ++ fields) = .ok body ∧
        Conveys layout service body { system := declaredSystem, version := version }
          (plaintextOf (keyFields sessionKey ++ fields)) := by
  obtain ⟨body, block, around⟩ :=
    exists_writtenAround key headed shaped version (keyFields sessionKey ++ fields)
  have leading : (plaintextOf (keyFields sessionKey ++ fields)).head? ≠ some 0 := by
    rw [head?_plaintextOf]
    exact fun zero => low (Option.some.inj zero)
  exact ⟨body, around.written, around.conveys leading⟩

/-- A login handshake that is written conveys its fields if they fit. -/
theorem conveys_of_writeLogin
    {service : KeyPair}
    {sessionKey : CipherKey}
    {account password : Bytes}
    (key : IsWideKey service)
    (low : sessionKey.word0.toUInt8 ≠ 0)
    (fits :
      16 + (2 + account.length) + (2 + password.length) ≤ Protocol.keyPlaintextLength)
    (version : UInt16) :
    ∃ body rest,
      writeLogin service version sessionKey account password = .ok body ∧
        Conveys .login service body { system := declaredSystem, version := version }
          (loginBytes sessionKey account password ++ rest) := by
  simp only [Protocol.keyPlaintextLength] at fits
  have accountShort : account.length ≤ 65535 := by
    omega
  have passwordShort : password.length ≤ 65535 := by
    omega
  have credentials :
      Packet.encoding? [.string account, .string password] =
        some (credentialBytes account ++ credentialBytes password) := by
    simp [Packet.encoding?, Field.encoding?, accountShort, passwordShort, credentialBytes]
  have encoded := Packet.encoding?_append (encoding?_keyFields sessionKey) credentials
  have within :
      (loginBytes sessionKey account password).length ≤ Protocol.keyPlaintextLength := by
    simp only [loginBytes, List.length_append, length_keyBytes, length_credentialBytes,
      Protocol.keyPlaintextLength]
    omega
  obtain ⟨body, written, conveys⟩ :=
    conveys_of_writeWith key (by decide : 9 ≤ HelloLayout.login.blockOffset) rfl low version
      [.string account, .string password]
  rw [plaintextOf_of_fits encoded within] at conveys
  exact ⟨body, _, written, conveys⟩

/-- A game handshake that is written conveys its fields if they fit. -/
theorem conveys_of_writeGame
    {service : KeyPair}
    {sessionKey : CipherKey}
    {account character password : Bytes}
    (key : IsWideKey service)
    (low : sessionKey.word0.toUInt8 ≠ 0)
    (fits :
      16 + 1 + (2 + account.length) + (2 + character.length) + (2 + password.length) ≤
        Protocol.keyPlaintextLength)
    (version : UInt16) :
    ∃ body rest,
      writeGame service version sessionKey account character password = .ok body ∧
        Conveys .game service body { system := declaredSystem, version := version }
          (gameBytes sessionKey 0 account character password ++ rest) := by
  simp only [Protocol.keyPlaintextLength] at fits
  have accountShort : account.length ≤ 65535 := by
    omega
  have characterShort : character.length ≤ 65535 := by
    omega
  have passwordShort : password.length ≤ 65535 := by
    omega
  have credentials :
      Packet.encoding? [.uint8 0, .string account, .string character, .string password] =
        some
          ([0] ++
            (credentialBytes account ++
              (credentialBytes character ++ credentialBytes password))) := by
    simp [Packet.encoding?, Field.encoding?, accountShort, characterShort, passwordShort,
      credentialBytes]
  have encoded := Packet.encoding?_append (encoding?_keyFields sessionKey) credentials
  have within :
      (gameBytes sessionKey 0 account character password).length ≤
        Protocol.keyPlaintextLength := by
    simp only [gameBytes, List.length_append, length_keyBytes, length_credentialBytes,
      List.length_singleton, Protocol.keyPlaintextLength]
    omega
  obtain ⟨body, written, conveys⟩ :=
    conveys_of_writeWith key (by decide : 9 ≤ HelloLayout.game.blockOffset) rfl low version
      [.uint8 0, .string account, .string character, .string password]
  rw [plaintextOf_of_fits encoded within] at conveys
  exact ⟨body, _, written, conveys⟩

/-- A login handshake is written, and read back as its version has it. -/
theorem readLogin_of_writeLogin_under
    {service : KeyPair}
    {sessionKey : CipherKey}
    {account password : Bytes}
    (key : IsWideKey service)
    (low : sessionKey.word0.toUInt8 ≠ 0)
    (fits :
      16 + (2 + account.length) + (2 + password.length) ≤ Protocol.keyPlaintextLength)
    (version : UInt16) :
    ∃ body left,
      writeLogin service version sessionKey account password = .ok body ∧
        readLogin service body =
          .ok {
            outcome := .ok
              (loginHelloUnder { system := declaredSystem, version := version } sessionKey account
                password)
            buffer := left } := by
  obtain ⟨body, _, written, conveys⟩ := conveys_of_writeLogin key low fits version
  obtain ⟨left, readBack⟩ := conveys.readLogin_eq
  exact ⟨body, left, written, readBack⟩

/-- A game handshake is written, and read back as its version has it. -/
theorem readGame_of_writeGame_under
    {service : KeyPair}
    {sessionKey : CipherKey}
    {account character password : Bytes}
    (key : IsWideKey service)
    (low : sessionKey.word0.toUInt8 ≠ 0)
    (fits :
      16 + 1 + (2 + account.length) + (2 + character.length) + (2 + password.length) ≤
        Protocol.keyPlaintextLength)
    (version : UInt16) :
    ∃ body left,
      writeGame service version sessionKey account character password = .ok body ∧
        readGame service body =
          .ok {
            outcome := .ok
              (gameHelloUnder { system := declaredSystem, version := version } sessionKey account
                character password)
            buffer := left } := by
  obtain ⟨body, _, written, conveys⟩ := conveys_of_writeGame key low fits version
  obtain ⟨left, readBack⟩ := conveys.readGame_eq
  exact ⟨body, left, written, readBack⟩

/-- A login handshake of the accepted version is written and read back. -/
theorem readLogin_of_writeLogin
    {service : KeyPair}
    {sessionKey : CipherKey}
    {account password : Bytes}
    (key : IsWideKey service)
    (low : sessionKey.word0.toUInt8 ≠ 0)
    (fits :
      16 + (2 + account.length) + (2 + password.length) ≤ Protocol.keyPlaintextLength) :
    ∃ body buffer,
      writeLogin service Protocol.acceptedVersion sessionKey account password = .ok body ∧
        readLogin service body =
          .ok { outcome := .ok (loginHelloOf sessionKey account password), buffer := buffer } :=
  readLogin_of_writeLogin_under key low fits Protocol.acceptedVersion

/-- A game handshake of the accepted version is written and read back. -/
theorem readGame_of_writeGame
    {service : KeyPair}
    {sessionKey : CipherKey}
    {account character password : Bytes}
    (key : IsWideKey service)
    (low : sessionKey.word0.toUInt8 ≠ 0)
    (fits :
      16 + 1 + (2 + account.length) + (2 + character.length) + (2 + password.length) ≤
        Protocol.keyPlaintextLength) :
    ∃ body buffer,
      writeGame service Protocol.acceptedVersion sessionKey account character password =
          .ok body ∧
        readGame service body =
          .ok {
            outcome := .ok (gameHelloOf sessionKey account character password)
            buffer := buffer } :=
  readGame_of_writeGame_under key low fits Protocol.acceptedVersion

end Gatehouse.Hello
