import Gatehouse.Proofs.Frame.Layout

namespace Gatehouse.Frame

/-!
# Opening a body

What a body has to be for a payload to be taken out of it, and what is left in
its place. The body of the frame around a payload opens to that payload, and a
body that opens to a payload with nothing but padding behind it is the body of
the frame around the payload.
-/

/-- Fewer than eight bytes, all of them the padding byte. -/
def IsPadding (bytes : Bytes) : Prop :=
  bytes.length < 8 ∧ ∀ byte ∈ bytes, byte = paddingByte

/-- A region answers the payload whose length it starts with, if it holds that many bytes. -/
theorem payloadOf_eq_ok {region payload : Bytes} :
    payloadOf region = .ok (.ok payload) ↔
      2 + (Bytes.toUInt16 region).toNat ≤ region.length ∧
        payload = (region.drop 2).take (Bytes.toUInt16 region).toNat := by
  simp only [payloadOf, Checked.bind_eq_ok, Size.sub_eq_ok]
  constructor
  · intro taken
    rcases taken with ⟨available, ⟨enough, rfl⟩, answered⟩
    split at answered
    next short =>
      cases answered
    next holds =>
      obtain ⟨taken, sliced, same⟩ := Checked.bind_eq_ok.mp answered
      cases same
      obtain ⟨_, rfl⟩ := Bytes.slice_eq_ok.mp sliced
      refine ⟨by omega, ?_⟩
      rw [Nat.add_sub_cancel_left]
  · intro answers
    rcases answers with ⟨holds, rfl⟩
    refine ⟨region.length - 2, ⟨by omega, rfl⟩, ?_⟩
    have admitted : ¬region.length - 2 < (Bytes.toUInt16 region).toNat := by
      omega
    rw [if_neg admitted, Checked.bind_eq_ok]
    refine ⟨_, Bytes.slice_eq_ok.mpr ⟨⟨by omega, holds⟩, rfl⟩, ?_⟩
    rw [Nat.add_sub_cancel_left]
    rfl

theorem payloadOf_plainRegion
    {payload : Bytes}
    (small : payload.length < 65536) :
    payloadOf (plainRegion payload) = .ok (.ok payload) := by
  have declared : (Bytes.toUInt16 (plainRegion payload)).toNat = payload.length := by
    rw [plainRegion, Bytes.toUInt16_ofUInt16_append]
    exact UInt16.toNat_ofNat_of_lt' small
  have behind :
      (plainRegion payload).drop 2 =
        payload ++ List.replicate (paddingAround payload.length) paddingByte :=
    List.drop_left' (Bytes.length_ofUInt16 _)
  rw [payloadOf_eq_ok, declared, behind]
  refine ⟨?_, (List.take_left' rfl).symm⟩
  rw [length_plainRegion, lengthAround_eq]
  simp only [headerLength, sealedStart]
  omega

theorem exists_payloadOf
    {region : Bytes}
    (long : 2 ≤ region.length) :
    ∃ outcome, payloadOf region = .ok outcome := by
  have available : Size.sub region.length 2 = .ok (region.length - 2) :=
    Size.sub_eq_ok.mpr ⟨long, rfl⟩
  simp only [payloadOf, available, bind, Except.bind]
  split
  next short =>
    exact ⟨_, rfl⟩
  next holds =>
    have inside :
        region.slice 2 (2 + (Bytes.toUInt16 region).toNat) = .ok _ :=
      Bytes.slice_eq_ok.mpr ⟨⟨by omega, by omega⟩, rfl⟩
    rw [inside]
    exact ⟨_, rfl⟩

/-- Opening a body answers a payload or an error, whatever the body is. -/
theorem exists_extract (body : Bytes) (key : CipherKey) :
    ∃ attempt, extract body key = .ok attempt := by
  unfold extract
  by_cases short : body.length < minBodyLength
  · exact ⟨_, if_pos short⟩
  rw [if_neg short]
  simp only
  by_cases aligned : (body.drop 4).length % CipherKey.blockLength = 0
  · rw [if_neg (not_not_intro aligned)]
    by_cases matching : Bytes.toUInt32 body = Checksum.ofBytes (body.drop 4)
    · rw [if_neg (not_not_intro matching), key.decrypt_of_aligned aligned]
      have long : 2 ≤ (CipherKey.mapBlocks key.decryptHalves (body.drop 4)).length := by
        simp only [minBodyLength] at short
        rw [CipherKey.length_mapBlocks, List.length_drop]
        omega
      obtain ⟨outcome, answered⟩ := exists_payloadOf long
      simp only [answered]
      exact ⟨_, rfl⟩
    · exact ⟨_, if_pos matching⟩
  · exact ⟨_, if_pos aligned⟩

/-- When a payload is taken out of a body, and what is left of the body then. -/
theorem extract_eq_ok {body payload left : Bytes} {key : CipherKey} :
    extract body key = .ok { outcome := .ok payload, buffer := left } ↔
      minBodyLength ≤ body.length ∧
        (body.drop 4).length % CipherKey.blockLength = 0 ∧
        Bytes.toUInt32 body = Checksum.ofBytes (body.drop 4) ∧
        left = body.take 4 ++ CipherKey.mapBlocks key.decryptHalves (body.drop 4) ∧
        payloadOf (CipherKey.mapBlocks key.decryptHalves (body.drop 4)) = .ok (.ok payload) := by
  unfold extract
  generalize body.drop 4 = region
  by_cases short : body.length < minBodyLength
  · simp [short, Nat.not_le.mpr short, pure, Except.pure]
  by_cases aligned : region.length % CipherKey.blockLength = 0
  · by_cases matching : Bytes.toUInt32 body = Checksum.ofBytes region
    · simp only [short, aligned, matching, key.decrypt_of_aligned aligned, if_false,
        ne_eq, not_true_eq_false, Nat.not_lt.mp short, true_and]
      cases payloadOf (CipherKey.mapBlocks key.decryptHalves region) with
      | error fault =>
          simp [bind, Except.bind]
      | ok outcome =>
          simp [bind, Except.bind, pure, Except.pure, and_comm, eq_comm]
    · simp [short, aligned, matching, pure, Except.pure]
  · simp [short, aligned, pure, Except.pure]

theorem extract_bodyAround
    {payload : Bytes}
    (key : CipherKey)
    (small : payload.length < 65536) :
    extract (bodyAround key payload) key =
      .ok {
        outcome := .ok payload
        buffer :=
          Bytes.ofUInt32 (Checksum.ofBytes (cipherRegion key payload)) ++ plainRegion payload } := by
  have region : (bodyAround key payload).drop 4 = cipherRegion key payload :=
    List.drop_left' (Bytes.length_ofUInt32 _)
  have checksum :
      (bodyAround key payload).take 4 =
        Bytes.ofUInt32 (Checksum.ofBytes (cipherRegion key payload)) :=
    List.take_left' (Bytes.length_ofUInt32 _)
  have plain :
      CipherKey.mapBlocks key.decryptHalves (cipherRegion key payload) = plainRegion payload :=
    CipherKey.mapBlocks_mapBlocks key.decryptHalves_encryptHalves _
  rw [extract_eq_ok, region, checksum, plain]
  refine ⟨?_, ?_, ?_, rfl, payloadOf_plainRegion small⟩
  · rw [length_bodyAround, lengthAround]
    simp only [minBodyLength, sealedStart]
    omega
  · rw [cipherRegion, CipherKey.length_mapBlocks]
    exact plainRegion_aligned payload
  · rw [bodyAround, Bytes.toUInt32_ofUInt32_append]

theorem eq_plainRegion
    {region payload : Bytes}
    (aligned : region.length % CipherKey.blockLength = 0)
    (answered : payloadOf region = .ok (.ok payload))
    (padded : IsPadding (region.drop (2 + payload.length))) :
    region = plainRegion payload := by
  obtain ⟨holds, taken⟩ := payloadOf_eq_ok.mp answered
  have declared : (Bytes.toUInt16 region).toNat = payload.length := by
    rw [taken, List.length_take, List.length_drop]
    omega
  have field : region.take 2 = Bytes.ofUInt16 (UInt16.ofNat payload.length) := by
    rw [← Bytes.ofUInt16_toUInt16 (by omega), ← declared, UInt16.ofNat_toNat]
  have padding :
      region.drop (2 + payload.length) =
        List.replicate (paddingAround payload.length) paddingByte := by
    have count : (region.drop (2 + payload.length)).length = paddingAround payload.length := by
      apply eq_paddingAround padded.1
      rw [List.length_drop]
      simp only [CipherKey.blockLength] at aligned
      omega
    exact List.eq_replicate_iff.mpr ⟨count, padded.2⟩
  have middle : (region.drop 2).take payload.length = payload := by
    rw [← declared]
    exact taken.symm
  calc
    region = region.take 2 ++ region.drop 2 :=
      (List.take_append_drop 2 region).symm
    _ = region.take 2 ++ ((region.drop 2).take payload.length ++
          (region.drop 2).drop payload.length) :=
      congrArg (region.take 2 ++ ·) (List.take_append_drop _ _).symm
    _ = plainRegion payload := by
      rw [List.drop_drop, padding, field, middle, plainRegion]

/-- A body that opens to a payload with only padding behind it is the one around the payload. -/
theorem eq_bodyAround
    {body payload left : Bytes}
    {key : CipherKey}
    (opened : extract body key = .ok { outcome := .ok payload, buffer := left })
    (padded : IsPadding (left.drop (sealedStart + payload.length))) :
    body = bodyAround key payload := by
  obtain ⟨long, aligned, checksum, rfl, answered⟩ := extract_eq_ok.mp opened
  have front : (body.take 4).length = 4 := by
    rw [List.length_take]
    simp only [minBodyLength] at long
    omega
  have behind :
      (body.take 4 ++ CipherKey.mapBlocks key.decryptHalves (body.drop 4)).drop
          (sealedStart + payload.length) =
        (CipherKey.mapBlocks key.decryptHalves (body.drop 4)).drop (2 + payload.length) := by
    rw [show sealedStart + payload.length = 4 + (2 + payload.length) by
      simp only [sealedStart]; omega, ← List.drop_drop, List.drop_left' front]
  rw [behind] at padded
  have plain :=
    eq_plainRegion (by rw [CipherKey.length_mapBlocks]; exact aligned) answered padded
  have region : cipherRegion key payload = body.drop 4 := by
    rw [cipherRegion, ← plain,
      CipherKey.mapBlocks_mapBlocks key.encryptHalves_decryptHalves]
  rw [bodyAround, region, ← checksum, Bytes.ofUInt32_toUInt32, List.take_append_drop]
  simp only [minBodyLength] at long
  omega

end Gatehouse.Frame
