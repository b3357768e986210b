import Gatehouse.Proofs.Frame.Layout

namespace Gatehouse.Frame

/-!
# Sealing in place

Every test of a payload comes before the first byte that sealing writes. A
payload is refused because it is empty or because its frame fits neither the
buffer nor the length field, and then the buffer is as it was; otherwise the
buffer starts with the frame around the payload and is as it was behind it.
Enclosing is copying and then sealing.
-/

/-- The longest frame that the length field can express. -/
def maxLength : Nat := 65537

/-- The longest payload around which the length of the frame is a size. -/
def maxSizedPayload : Nat := 2 ^ 64 - 10

theorem lengthAround_lt_limit {payloadLength : Nat} :
    lengthAround payloadLength < Size.limit ↔ payloadLength ≤ maxSizedPayload := by
  simp only [lengthAround, sealedStart, Size.limit, maxSizedPayload]
  omega

theorem sealedLength_of_sized
    {payloadLength : Nat}
    (sized : payloadLength ≤ maxSizedPayload) :
    sealedLength payloadLength = .ok (lengthAround payloadLength) :=
  sealedLength_eq_ok.mpr ⟨lengthAround_lt_limit.mpr sized, rfl⟩

/-- A payload whose frame the length field can express is far below the longest with a size. -/
theorem sized_of_expressible
    {payloadLength : Nat}
    (expressible : lengthAround payloadLength ≤ maxLength) :
    payloadLength ≤ maxSizedPayload :=
  lengthAround_lt_limit.mp (Nat.lt_of_le_of_lt expressible (by decide))

/-- The length field is the tighter of the two fields, so it alone decides with the buffer. -/
theorem refused_iff (capacity payloadLength : Nat) :
    (capacity < lengthAround payloadLength ∨
        65535 < lengthAround payloadLength - 2 ∨ 65535 < payloadLength) ↔
      capacity < lengthAround payloadLength ∨ maxLength < lengthAround payloadLength := by
  have balance := lengthAround_eq payloadLength
  simp only [headerLength] at balance
  simp only [maxLength]
  omega

/-- The frame around a payload that was sealed in a buffer starts the buffer. -/
theorem sealRegion_eq
    {buffer payload : Bytes}
    (key : CipherKey)
    (fits : lengthAround payload.length ≤ buffer.length) :
    sealRegion buffer (plainRegion payload) key (lengthAround payload.length) =
      { outcome := .ok (lengthAround payload.length)
        buffer := frameAround key payload ++ buffer.drop (lengthAround payload.length) } := by
  have written :
      buffer.overwrite 0 (frameAround key payload) =
        frameAround key payload ++ buffer.drop (lengthAround payload.length) := by
    rw [Bytes.overwrite_front (by simpa using fits), length_frameAround]
  rw [sealRegion, key.encrypt_of_aligned (plainRegion_aligned payload), ← written]
  rfl

/-- Sealing a payload whose frame fits leaves that frame at the front of the buffer. -/
theorem sealPayload_of_fits
    {buffer payload : Bytes}
    (key : CipherKey)
    (found : buffer.slice headerLength (headerLength + payload.length) = .ok payload)
    (nonempty : payload ≠ [])
    (fits : lengthAround payload.length ≤ buffer.length)
    (expressible : lengthAround payload.length ≤ maxLength) :
    sealPayload buffer payload.length key =
      .ok {
        outcome := .ok (lengthAround payload.length)
        buffer := frameAround key payload ++ buffer.drop (lengthAround payload.length) } := by
  have positive : payload.length ≠ 0 := by
    simpa using nonempty
  have total := sealedLength_of_sized (sized_of_expressible expressible)
  have admitted :
      ¬(buffer.length < lengthAround payload.length ∨
        65535 < lengthAround payload.length - 2 ∨ 65535 < payload.length) := by
    rw [refused_iff]
    omega
  simp only [sealPayload, positive, if_false, total, admitted, found, bind, Except.bind]
  exact congrArg Except.ok (sealRegion_eq key fits)

/-- Sealing a payload whose frame fits neither the buffer nor its field leaves the buffer. -/
theorem sealPayload_of_no_room
    {buffer : Bytes}
    {payloadLength : Nat}
    (key : CipherKey)
    (sized : payloadLength ≤ maxSizedPayload)
    (nonempty : payloadLength ≠ 0)
    (tooSmall :
      buffer.length < lengthAround payloadLength ∨ maxLength < lengthAround payloadLength) :
    sealPayload buffer payloadLength key =
      .ok {
        outcome := .error (.bufferTooSmall (lengthAround payloadLength) buffer.length)
        buffer := buffer } := by
  have refused := (refused_iff buffer.length payloadLength).mpr tooSmall
  simp only [sealPayload, nonempty, if_false, sealedLength_of_sized sized, refused, if_true,
    bind, Except.bind]
  rfl

/-- A frame of this length around a payload that is not empty fits a buffer and its own field. -/
structure HasRoom (capacity payloadLength total : Nat) : Prop where
  nonempty : payloadLength ≠ 0
  fits : total ≤ capacity
  expressible : total ≤ maxLength

/-- There is room exactly if the payload is not empty and nothing about its frame is too small. -/
theorem hasRoom_iff {capacity payloadLength total : Nat} :
    HasRoom capacity payloadLength total ↔
      payloadLength ≠ 0 ∧ ¬(capacity < total ∨ maxLength < total) := by
  constructor
  · rintro ⟨nonempty, fits, expressible⟩
    exact ⟨nonempty, by omega⟩
  · rintro ⟨nonempty, enough⟩
    exact ⟨nonempty, by omega, by omega⟩

/-- What sealing answers, and what it leaves of the buffer. -/
structure IsAllOrNothing
    (buffer : Bytes)
    (payloadLength total : Nat)
    (attempt : Attempt FrameError Nat) :
    Prop where
  empty : attempt.outcome = .error .emptyPayload ↔ payloadLength = 0
  tooSmall :
    attempt.outcome = .error (.bufferTooSmall total buffer.length) ↔
      payloadLength ≠ 0 ∧ (buffer.length < total ∨ maxLength < total)
  done : attempt.outcome = .ok total ↔ HasRoom buffer.length payloadLength total
  aligned : ∀ length, attempt.outcome ≠ .error (.misaligned length)
  nothing : ∀ error, attempt.outcome = .error error → attempt.buffer = buffer
  same_length : attempt.buffer.length = buffer.length
  same_behind : attempt.buffer.drop total = buffer.drop total

/-- A buffer with room for a frame holds a payload where the frame has its payload. -/
theorem HasRoom.exists_slice
    {buffer : Bytes}
    {payloadLength : Nat}
    (room : HasRoom buffer.length payloadLength (lengthAround payloadLength)) :
    ∃ payload,
      buffer.slice headerLength (headerLength + payloadLength) = .ok payload ∧
        payload.length = payloadLength := by
  have balance := lengthAround_eq payloadLength
  have fits := room.fits
  refine ⟨_, Bytes.slice_eq_ok.mpr ⟨⟨Nat.le_add_right _ _, by omega⟩, rfl⟩, ?_⟩
  rw [List.length_take, List.length_drop]
  omega

/-- Whatever the buffer holds, sealing in it answers, and is all or nothing. -/
theorem exists_sealPayload_of_sized
    {payloadLength : Nat}
    (buffer : Bytes)
    (key : CipherKey)
    (sized : payloadLength ≤ maxSizedPayload) :
    ∃ attempt,
      sealPayload buffer payloadLength key = .ok attempt ∧
        IsAllOrNothing buffer payloadLength (lengthAround payloadLength) attempt := by
  by_cases empty : payloadLength = 0
  · refine ⟨{ outcome := .error .emptyPayload, buffer := buffer }, by rw [empty]; rfl, ?_⟩
    exact {
      empty := by simp [empty]
      tooSmall := by simp [empty]
      done := by simp [hasRoom_iff, empty]
      aligned := by simp
      nothing := fun _ _ => rfl
      same_length := rfl
      same_behind := rfl }
  by_cases tooSmall :
      buffer.length < lengthAround payloadLength ∨ maxLength < lengthAround payloadLength
  · refine ⟨_, sealPayload_of_no_room key sized empty tooSmall, ?_⟩
    exact {
      empty := by simp [empty]
      tooSmall := by simp [empty, tooSmall]
      done := by simp [hasRoom_iff, tooSmall]
      aligned := by simp
      nothing := fun _ _ => rfl
      same_length := rfl
      same_behind := rfl }
  have room := hasRoom_iff.mpr ⟨empty, tooSmall⟩
  obtain ⟨payload, found, rfl⟩ := room.exists_slice
  refine ⟨_, sealPayload_of_fits key found (by simpa using empty) room.fits room.expressible, ?_⟩
  exact {
    empty := by simp [empty]
    tooSmall := by simp [tooSmall]
    done := by simp [room]
    aligned := by simp
    nothing := fun _ impossible => by cases impossible
    same_length := by
      rw [List.length_append, length_frameAround, List.length_drop,
        Nat.add_sub_cancel' room.fits]
    same_behind := List.drop_left' (length_frameAround key payload) }

/-- Whatever length is answered, there was room. -/
theorem IsAllOrNothing.hasRoom
    {buffer : Bytes}
    {payloadLength total length : Nat}
    {attempt : Attempt FrameError Nat}
    (allOrNothing : IsAllOrNothing buffer payloadLength total attempt)
    (answered : attempt.outcome = .ok length) :
    HasRoom buffer.length payloadLength total := by
  refine hasRoom_iff.mpr ⟨?_, ?_⟩
  · intro empty
    have refused := allOrNothing.empty.mpr empty
    rw [answered] at refused
    cases refused
  · intro tooSmall
    by_cases empty : payloadLength = 0
    · have refused := allOrNothing.empty.mpr empty
      rw [answered] at refused
      cases refused
    · have refused := allOrNothing.tooSmall.mpr ⟨empty, tooSmall⟩
      rw [answered] at refused
      cases refused

/-- The only length that is answered is that of the frame. -/
theorem IsAllOrNothing.length_eq
    {buffer : Bytes}
    {payloadLength total length : Nat}
    {attempt : Attempt FrameError Nat}
    (allOrNothing : IsAllOrNothing buffer payloadLength total attempt)
    (answered : attempt.outcome = .ok length) :
    length = total :=
  Except.ok.inj
    (answered.symm.trans (allOrNothing.done.mpr (allOrNothing.hasRoom answered)))

theorem exists_sealPayload
    {buffer : Bytes}
    {payloadLength : Nat}
    (key : CipherKey)
    (inside : headerLength + payloadLength ≤ buffer.length)
    (isSize : buffer.length + CipherKey.blockLength < Size.limit) :
    ∃ attempt,
      sealPayload buffer payloadLength key = .ok attempt ∧
        attempt.buffer.length = buffer.length := by
  have sized : payloadLength ≤ maxSizedPayload := by
    simp only [headerLength] at inside
    simp only [CipherKey.blockLength, Size.limit] at isSize
    simp only [maxSizedPayload]
    omega
  obtain ⟨attempt, done, allOrNothing⟩ := exists_sealPayload_of_sized buffer key sized
  exact ⟨attempt, done, allOrNothing.same_length⟩

section Done

variable
  {buffer : Bytes}
  {payloadLength : Nat}
  {key : CipherKey}
  {attempt : Attempt FrameError Nat}
  (done : sealPayload buffer payloadLength key = .ok attempt)

include done

theorem sized_of_sealPayload : payloadLength ≤ maxSizedPayload := by
  unfold sealPayload at done
  split at done
  next none =>
    rw [none]
    exact Nat.zero_le _
  next some =>
    obtain ⟨total, total_eq, _⟩ := Checked.bind_eq_ok.mp done
    exact lengthAround_lt_limit.mp (sealedLength_eq_ok.mp total_eq).1

theorem isAllOrNothing_of_sealPayload :
    IsAllOrNothing buffer payloadLength (lengthAround payloadLength) attempt := by
  obtain ⟨same, doneToo, allOrNothing⟩ :=
    exists_sealPayload_of_sized buffer key (sized_of_sealPayload done)
  rw [Except.ok.inj (done.symm.trans doneToo)]
  exact allOrNothing

/-- Sealing keeps the length of the buffer, inside which a sealed frame ends. -/
theorem sealPayload_keeps :
    attempt.buffer.length = buffer.length ∧
      ∀ length, attempt.outcome = .ok length → length ≤ buffer.length := by
  have allOrNothing := isAllOrNothing_of_sealPayload done
  refine ⟨allOrNothing.same_length, ?_⟩
  intro length answered
  rw [allOrNothing.length_eq answered]
  exact (allOrNothing.hasRoom answered).fits

/-- What is sealed is not empty, and its frame fits the buffer. -/
theorem fits_of_sealPayload
    {length : Nat}
    (isSealed : attempt.outcome = .ok length) :
    payloadLength ≠ 0 ∧ lengthAround payloadLength ≤ buffer.length := by
  have room := (isAllOrNothing_of_sealPayload done).hasRoom isSealed
  exact ⟨room.nonempty, room.fits⟩

end Done

theorem enclose_of_fits
    {buffer payload : Bytes}
    (key : CipherKey)
    (nonempty : payload ≠ [])
    (fits : lengthAround payload.length ≤ buffer.length)
    (expressible : lengthAround payload.length ≤ maxLength) :
    enclose payload key buffer =
      .ok {
        outcome := .ok (lengthAround payload.length)
        buffer := frameAround key payload ++ buffer.drop (lengthAround payload.length) } := by
  have balance := lengthAround_eq payload.length
  have holds : headerLength + payload.length ≤ buffer.length := by
    omega
  have total := sealedLength_of_sized (sized_of_expressible expressible)
  have behind :
      (buffer.overwrite headerLength payload).drop (lengthAround payload.length) =
        buffer.drop (lengthAround payload.length) := by
    rw [balance, ← List.drop_drop, Bytes.drop_overwrite holds, List.drop_drop]
  have done :=
    sealPayload_of_fits key (Bytes.slice_overwrite holds) nonempty
      (by rw [Bytes.length_overwrite]; exact fits) expressible
  rw [behind] at done
  simp only [enclose, total, Nat.not_lt.mpr holds, if_false, bind, Except.bind]
  exact done

end Gatehouse.Frame
