import Gatehouse.Cipher.InPlace
import Gatehouse.Proofs.Bytes.Pieces
import Gatehouse.Proofs.Cipher

namespace Gatehouse.CipherKey

/-!
# What the cipher leaves in a buffer

Each block is stored behind those that are done and in front of those that are
not, so that a whole number of blocks ends up as the blocks transformed one by
one, and both directions undo each other on the buffer. Any other buffer is
refused as it was.
-/

/-- An operation in place that succeeded and left the given bytes. -/
def leaving (buffer : Bytes) : Checked (Attempt CipherError Unit) :=
  .ok { outcome := .ok (), buffer := buffer }

/-- An operation in place that was refused and left the given bytes. -/
def refusing (error : CipherError) (buffer : Bytes) : Checked (Attempt CipherError Unit) :=
  .ok { outcome := .error error, buffer := buffer }

variable {front left right rest : Bytes}

theorem loadBlock_append
    (leftWidth : left.length = 4)
    (rightWidth : right.length = 4) :
    loadBlock (front ++ (left ++ (right ++ rest))) front.length =
      .ok (Bytes.toUInt32 left, Bytes.toUInt32 right) := by
  have length_eq :
      (front ++ (left ++ (right ++ rest))).length = front.length + (4 + (4 + rest.length)) := by
    simp only [List.length_append, leftWidth, rightWidth]
  have ofLeft :
      Bytes.slice (front ++ (left ++ (right ++ rest))) front.length (front.length + 4) =
        .ok left := by
    rw [Bytes.slice_eq_ok, length_eq, List.drop_left, Nat.add_sub_cancel_left,
      List.take_left' leftWidth]
    exact ⟨⟨by omega, by omega⟩, rfl⟩
  have ofRight :
      Bytes.slice (front ++ (left ++ (right ++ rest))) (front.length + 4) (front.length + 8) =
        .ok right := by
    have width : front.length + 8 - (front.length + 4) = 4 := by
      omega
    rw [Bytes.slice_eq_ok, length_eq, width, ← List.drop_drop, List.drop_left,
      List.drop_left' leftWidth, List.take_left' rightWidth]
    exact ⟨⟨by omega, by omega⟩, rfl⟩
  simp only [loadBlock, ofLeft, ofRight, bind, Except.bind]
  rfl

theorem storeBlock_append
    (leftWidth : left.length = 4)
    (rightWidth : right.length = 4)
    (halves : UInt32 × UInt32) :
    storeBlock (front ++ (left ++ (right ++ rest))) front.length halves =
      front ++ (Bytes.ofUInt32 halves.1 ++ (Bytes.ofUInt32 halves.2 ++ rest)) := by
  have inFront : (front ++ Bytes.ofUInt32 halves.1).length = front.length + 4 := by
    rw [List.length_append, Bytes.length_ofUInt32]
  have first :
      Bytes.overwrite (front ++ (left ++ (right ++ rest))) front.length (Bytes.ofUInt32 halves.1) =
        (front ++ Bytes.ofUInt32 halves.1) ++ (right ++ rest) := by
    rw [Bytes.overwrite_of_fits, List.take_left, ← List.drop_drop, List.drop_left,
      Bytes.length_ofUInt32, List.drop_left' leftWidth, List.append_assoc]
    simp only [List.length_append, Bytes.length_ofUInt32]
    omega
  rw [storeBlock, first, ← inFront, Bytes.overwrite_of_fits, List.take_left, ← List.drop_drop,
    List.drop_left, Bytes.length_ofUInt32, List.drop_left' rightWidth, List.append_assoc]
  simp only [List.length_append, Bytes.length_ofUInt32]
  omega

/-- Data of some blocks starts with the two words of one. -/
theorem exists_block
    {count : Nat}
    {data : Bytes}
    (whole : data.length = (count + 1) * blockLength) :
    ∃ left right rest : Bytes,
      left.length = 4 ∧
        right.length = 4 ∧
        rest.length = count * blockLength ∧ data = left ++ (right ++ rest) := by
  rw [Nat.succ_mul, blockLength] at whole
  refine ⟨data.take 4, (data.drop 4).take 4, (data.drop 4).drop 4, ?_, ?_, ?_, ?_⟩
  · rw [List.length_take]
    omega
  · rw [List.length_take, List.length_drop]
    omega
  · rw [List.length_drop, List.length_drop, blockLength]
    omega
  · rw [List.take_append_drop, List.take_append_drop]

/-- What is in front of an offset stays, and what is behind it is transformed block by block. -/
theorem transformFrom_append
    (transform : UInt32 × UInt32 → UInt32 × UInt32)
    (front : Bytes)
    {count : Nat}
    {back : Bytes}
    (whole : back.length = count * blockLength) :
    transformFrom transform count front.length (front ++ back) =
      .ok (front ++ mapBlocks transform back) := by
  induction count generalizing front back with
  | zero =>
      have none : back = [] := by
        simpa using whole
      rw [none]
      rfl
  | succ count inductionHypothesis =>
      obtain ⟨left, right, rest, leftWidth, rightWidth, restWhole, rfl⟩ := exists_block whole
      let halves := transform (Bytes.toUInt32 left, Bytes.toUInt32 right)
      let done := front ++ (Bytes.ofUInt32 halves.1 ++ Bytes.ofUInt32 halves.2)
      have offset_eq : front.length + blockLength = done.length := by
        simp only [done, List.length_append, Bytes.length_ofUInt32]
        rfl
      have stored :
          storeBlock (front ++ (left ++ (right ++ rest))) front.length halves = done ++ rest := by
        rw [storeBlock_append leftWidth rightWidth]
        simp only [done, List.append_assoc]
      have transformed :
          front ++ mapBlocks transform (left ++ (right ++ rest)) =
            done ++ mapBlocks transform rest := by
        rw [mapBlocks_append transform leftWidth rightWidth]
        simp only [done, halves, List.append_assoc]
      rw [transformFrom, loadBlock_append leftWidth rightWidth, transformed,
        ← inductionHypothesis done restWhole, ← offset_eq, ← stored]
      rfl

/-- A whole number of blocks is transformed as if each of them stood alone. -/
theorem transformInPlace_of_aligned
    (transform : UInt32 × UInt32 → UInt32 × UInt32)
    {data : Bytes}
    (aligned : data.length % blockLength = 0) :
    transformInPlace transform data = leaving (mapBlocks transform data) := by
  have whole : data.length = data.length / blockLength * blockLength :=
    (Nat.div_mul_cancel (Nat.dvd_of_mod_eq_zero aligned)).symm
  have transformed :
      transformFrom transform (data.length / blockLength) 0 data =
        .ok (mapBlocks transform data) :=
    transformFrom_append transform [] whole
  rw [transformInPlace, if_pos aligned, transformed]
  rfl

theorem transformInPlace_of_unaligned
    (transform : UInt32 × UInt32 → UInt32 × UInt32)
    {data : Bytes}
    (unaligned : data.length % blockLength ≠ 0) :
    transformInPlace transform data = refusing (.unalignedLength data.length) data :=
  if_neg unaligned

/-- The blocks in front are transformed apart from those behind them. -/
theorem mapBlocks_append_of_whole
    (transform : UInt32 × UInt32 → UInt32 × UInt32)
    {count : Nat}
    {front : Bytes}
    (whole : front.length = count * blockLength)
    (back : Bytes) :
    mapBlocks transform (front ++ back) =
      mapBlocks transform front ++ mapBlocks transform back := by
  induction count generalizing front with
  | zero =>
      have none : front = [] := by
        simpa using whole
      rw [none]
      rfl
  | succ count inductionHypothesis =>
      obtain ⟨left, right, rest, leftWidth, rightWidth, restWhole, rfl⟩ := exists_block whole
      rw [List.append_assoc, List.append_assoc, mapBlocks_append transform leftWidth rightWidth,
        mapBlocks_append transform leftWidth rightWidth, inductionHypothesis restWhole]
      simp only [List.append_assoc]

/-- One buffer encrypts to another of its length, which decrypts to it, in place and as values. -/
def Encrypts (key : CipherKey) (plain secret : Bytes) : Prop :=
  secret.length = plain.length ∧
    key.encryptInPlace plain = leaving secret ∧
    key.decryptInPlace secret = leaving plain ∧
    key.encrypt plain = .ok secret ∧
    key.decrypt secret = .ok plain

/-- A buffer is refused by both directions, and stays as it was. -/
def Refuses (key : CipherKey) (data : Bytes) : Prop :=
  key.encryptInPlace data = refusing (.unalignedLength data.length) data ∧
    key.decryptInPlace data = refusing (.unalignedLength data.length) data ∧
    key.encrypt data = .error (.unalignedLength data.length) ∧
    key.decrypt data = .error (.unalignedLength data.length)

theorem encrypts_mapBlocks
    (key : CipherKey)
    {data : Bytes}
    (aligned : data.length % blockLength = 0) :
    key.Encrypts data (mapBlocks key.encryptHalves data) := by
  have length_eq := length_mapBlocks key.encryptHalves data
  have secretAligned : (mapBlocks key.encryptHalves data).length % blockLength = 0 := by
    rw [length_eq]
    exact aligned
  have undone : mapBlocks key.decryptHalves (mapBlocks key.encryptHalves data) = data :=
    mapBlocks_mapBlocks key.decryptHalves_encryptHalves data
  refine ⟨length_eq, transformInPlace_of_aligned _ aligned, ?_, encrypt_of_aligned aligned key, ?_⟩
  · rw [decryptInPlace, transformInPlace_of_aligned _ secretAligned, undone]
  · rw [decrypt_of_aligned secretAligned, undone]

/-- Every whole number of blocks is what its decryption encrypts to. -/
theorem mapBlocks_encrypts
    (key : CipherKey)
    {data : Bytes}
    (aligned : data.length % blockLength = 0) :
    key.Encrypts (mapBlocks key.decryptHalves data) data := by
  have plainAligned : (mapBlocks key.decryptHalves data).length % blockLength = 0 := by
    rw [length_mapBlocks]
    exact aligned
  have undone : mapBlocks key.encryptHalves (mapBlocks key.decryptHalves data) = data :=
    mapBlocks_mapBlocks key.encryptHalves_decryptHalves data
  have encrypted := key.encrypts_mapBlocks plainAligned
  rw [undone] at encrypted
  exact encrypted

theorem Encrypts.secret_eq
    {key : CipherKey}
    {plain secret : Bytes}
    (encrypted : key.Encrypts plain secret)
    (aligned : plain.length % blockLength = 0) :
    secret = mapBlocks key.encryptHalves plain := by
  obtain ⟨_, _, _, asValue, _⟩ := encrypted
  rw [encrypt_of_aligned aligned] at asValue
  exact (Except.ok.inj asValue).symm

theorem Encrypts.of_append
    {key : CipherKey}
    {plain secret more moreSecret : Bytes}
    (encrypted : key.Encrypts plain secret)
    (moreEncrypted : key.Encrypts more moreSecret)
    (aligned : plain.length % blockLength = 0)
    (moreAligned : more.length % blockLength = 0) :
    key.Encrypts (plain ++ more) (secret ++ moreSecret) := by
  have whole : plain.length = plain.length / blockLength * blockLength :=
    (Nat.div_mul_cancel (Nat.dvd_of_mod_eq_zero aligned)).symm
  have bothAligned : (plain ++ more).length % blockLength = 0 := by
    rw [List.length_append, Nat.add_mod, aligned, moreAligned]
    rfl
  rw [encrypted.secret_eq aligned, moreEncrypted.secret_eq moreAligned,
    ← mapBlocks_append_of_whole _ whole]
  exact key.encrypts_mapBlocks bothAligned

theorem refuses_of_unaligned
    (key : CipherKey)
    {data : Bytes}
    (unaligned : data.length % blockLength ≠ 0) :
    key.Refuses data :=
  ⟨transformInPlace_of_unaligned _ unaligned, transformInPlace_of_unaligned _ unaligned,
    if_neg unaligned, if_neg unaligned⟩

/--
Both directions are permutations of the data of every aligned length, inverse to
each other, and treat aligned pieces apart; data of any other length is refused
and stays.
-/
theorem cipher_permutes_aligned_data (key : CipherKey) :
    (∀ data : Bytes,
      data.length % blockLength = 0 →
        ∃ plain secret, key.Encrypts data secret ∧ key.Encrypts plain data) ∧
      (∀ plain secret more moreSecret : Bytes,
        plain.length % blockLength = 0 →
          more.length % blockLength = 0 →
            key.Encrypts plain secret →
              key.Encrypts more moreSecret →
                key.Encrypts (plain ++ more) (secret ++ moreSecret)) ∧
      ∀ data : Bytes, data.length % blockLength ≠ 0 → key.Refuses data := by
  refine ⟨?_, ?_, ?_⟩
  · intro data aligned
    exact ⟨_, _, key.encrypts_mapBlocks aligned, key.mapBlocks_encrypts aligned⟩
  · intro plain secret more moreSecret aligned moreAligned encrypted moreEncrypted
    exact encrypted.of_append moreEncrypted aligned moreAligned
  · intro data unaligned
    exact key.refuses_of_unaligned unaligned

/-- Two blocks on their own and one behind the other, and data of a block and a half. -/
theorem sixteen_bytes_encrypted :
    ∃ secret,
      CipherKey.zero.Encrypts (List.replicate 8 7) secret ∧
        CipherKey.zero.Encrypts (List.replicate 8 7 ++ List.replicate 8 7) (secret ++ secret) ∧
        CipherKey.zero.Refuses (List.replicate 12 7) := by
  obtain ⟨permuted, appended, refused⟩ := cipher_permutes_aligned_data CipherKey.zero
  obtain ⟨_, secret, encrypted, _⟩ := permuted (List.replicate 8 7) (by decide)
  exact ⟨secret, encrypted, appended _ _ _ _ (by decide) (by decide) encrypted encrypted,
    refused (List.replicate 12 7) (by decide)⟩

end Gatehouse.CipherKey
