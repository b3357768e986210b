import Gatehouse.Proofs.Frame.Sealing

namespace Gatehouse.Frame

/-!
# Sealing is all or nothing

Sealing in place writes a whole frame or nothing. Enclosing succeeds for the same
payloads and leaves the same frames, wherever the payload was before.
-/

/-- A buffer without room for the frame is refused, be it before the payload is copied or after. -/
theorem exists_enclose_of_no_room
    {payload buffer : Bytes}
    (key : CipherKey)
    (sized : payload.length ≤ maxSizedPayload)
    (noRoom : ¬HasRoom buffer.length payload.length (lengthAround payload.length)) :
    ∃ attempt,
      enclose payload key buffer = .ok attempt ∧ ∀ length, attempt.outcome ≠ .ok length := by
  simp only [enclose, sealedLength_of_sized sized, bind, Except.bind]
  split
  next short =>
    exact ⟨_, rfl, fun _ impossible => by cases impossible⟩
  next copied =>
    obtain ⟨attempt, sealed, allOrNothing⟩ :=
      exists_sealPayload_of_sized (buffer.overwrite headerLength payload) key sized
    refine ⟨attempt, sealed, ?_⟩
    intro length answered
    have room := allOrNothing.hasRoom answered
    rw [Bytes.length_overwrite] at room
    exact noRoom room

/-- What was enclosed is the frame around the payload, which is short enough to be opened. -/
theorem frame_of_enclose
    {payload buffer sealed : Bytes}
    {key : CipherKey}
    {total : Nat}
    (enclosed : enclose payload key buffer = .ok { outcome := .ok total, buffer := sealed }) :
    sealed.take total = frameAround key payload ∧ payload.length < 65536 := by
  have sized : payload.length ≤ maxSizedPayload := by
    obtain ⟨needed, measured, _⟩ := Checked.bind_eq_ok.mp enclosed
    exact lengthAround_lt_limit.mp (sealedLength_eq_ok.mp measured).1
  by_cases room : HasRoom buffer.length payload.length (lengthAround payload.length)
  · have nonempty : payload ≠ [] := by
      simpa using room.nonempty
    rw [enclose_of_fits key nonempty room.fits room.expressible] at enclosed
    cases enclosed
    refine ⟨List.take_left' (length_frameAround key payload), ?_⟩
    have balance := lengthAround_eq payload.length
    have expressible := room.expressible
    simp only [headerLength] at balance
    simp only [maxLength] at expressible
    omega
  · obtain ⟨attempt, enclosedToo, refused⟩ := exists_enclose_of_no_room key sized room
    rw [enclosed] at enclosedToo
    cases enclosedToo
    exact absurd rfl (refused total)

/--
Below the lengths whose frame has no size, sealing is all or nothing. Enclosing
succeeds exactly if there is room, and then leaves the frame that sealing leaves
in whatever buffer holds the payload where the frame has it.
-/
theorem sealing_all_or_nothing (key : CipherKey) :
    (∀ (buffer : Bytes) (payloadLength : Nat),
      payloadLength ≤ maxSizedPayload →
      ∃ total attempt,
        sealedLength payloadLength = .ok total ∧
          sealPayload buffer payloadLength key = .ok attempt ∧
          IsAllOrNothing buffer payloadLength total attempt) ∧
      ∀ payload buffer : Bytes,
        payload.length ≤ maxSizedPayload →
        ∃ total attempt,
          sealedLength payload.length = .ok total ∧
            enclose payload key buffer = .ok attempt ∧
            ((∃ length, attempt.outcome = .ok length) ↔
              HasRoom buffer.length payload.length total) ∧
            ∀ length,
              attempt.outcome = .ok length →
              length = total ∧
                ∀ holder : Bytes,
                  holder.slice headerLength (headerLength + payload.length) = .ok payload →
                  length ≤ holder.length →
                  ∃ sealed,
                    sealPayload holder payload.length key =
                        .ok { outcome := .ok length, buffer := sealed } ∧
                      attempt.buffer.take length = sealed.take length := by
  constructor
  · intro buffer payloadLength sized
    obtain ⟨attempt, sealed, allOrNothing⟩ := exists_sealPayload_of_sized buffer key sized
    exact ⟨_, attempt, sealedLength_of_sized sized, sealed, allOrNothing⟩
  · intro payload buffer sized
    refine ⟨lengthAround payload.length, ?_⟩
    by_cases room : HasRoom buffer.length payload.length (lengthAround payload.length)
    · have nonempty : payload ≠ [] := by simpa using room.nonempty
      refine ⟨_, sealedLength_of_sized sized,
        enclose_of_fits key nonempty room.fits room.expressible, ?_, ?_⟩
      · exact ⟨fun _ => room, fun _ => ⟨_, rfl⟩⟩
      · intro length answered
        cases answered
        refine ⟨rfl, ?_⟩
        intro holder found fits
        refine ⟨_, sealPayload_of_fits key found nonempty fits room.expressible, ?_⟩
        have front := length_frameAround key payload
        rw [List.take_left' front, List.take_left' front]
    · obtain ⟨attempt, enclosed, refused⟩ := exists_enclose_of_no_room key sized room
      refine ⟨attempt, sealedLength_of_sized sized, enclosed, ?_, ?_⟩
      · exact ⟨fun ⟨length, answered⟩ => absurd answered (refused length),
          fun hasRoom => absurd hasRoom room⟩
      · intro length answered
        exact absurd answered (refused length)

/-- A payload of one byte between other bytes than the frame around it has. -/
def oneByteHolder : Bytes :=
  List.replicate 8 0xFF ++ 0x28 :: List.replicate 7 0xFF

/--
One byte less than the frame takes is refused, and so is the longest payload with
a size; a frame that fits exactly is left wherever the payload was.
-/
theorem one_byte_sealed_or_refused :
    sealPayload (Bytes.zeros 13) 1 .zero =
        .ok { outcome := .error (.bufferTooSmall 14 13), buffer := Bytes.zeros 13 } ∧
      (∃ total,
        sealPayload (Bytes.zeros 13) maxSizedPayload .zero =
          .ok { outcome := .error (.bufferTooSmall total 13), buffer := Bytes.zeros 13 }) ∧
      ∃ enclosed sealed,
        enclose [0x28] .zero (Bytes.zeros 14) = .ok { outcome := .ok 14, buffer := enclosed } ∧
          sealPayload oneByteHolder 1 .zero = .ok { outcome := .ok 14, buffer := sealed } ∧
          enclosed.take 14 = sealed.take 14 := by
  obtain ⟨inPlace, copied⟩ := sealing_all_or_nothing .zero
  refine ⟨?_, ?_, ?_⟩
  · obtain ⟨total, ⟨outcome, left⟩, measured, answered, allOrNothing⟩ :=
      inPlace (Bytes.zeros 13) 1 (by decide)
    have isFourteen : total = 14 := (sealedLength_eq_ok.mp measured).2
    subst isFourteen
    have refused : outcome = _ := allOrNothing.tooSmall.mpr ⟨by decide, by decide⟩
    have kept : left = _ := allOrNothing.nothing _ refused
    rw [answered, refused, kept]
    rfl
  · obtain ⟨total, ⟨outcome, left⟩, measured, answered, allOrNothing⟩ :=
      inPlace (Bytes.zeros 13) maxSizedPayload (Nat.le_refl _)
    have wide : (Bytes.zeros 13).length < total := by
      rw [(sealedLength_eq_ok.mp measured).2]
      decide
    have refused : outcome = _ := allOrNothing.tooSmall.mpr ⟨by decide, .inl wide⟩
    have kept : left = _ := allOrNothing.nothing _ refused
    refine ⟨total, ?_⟩
    rw [answered, refused, kept]
    rfl
  · obtain ⟨total, ⟨outcome, enclosed⟩, measured, answered, succeeds, same⟩ :=
      copied [0x28] (Bytes.zeros 14) (by decide)
    have isFourteen : total = 14 := (sealedLength_eq_ok.mp measured).2
    subst isFourteen
    obtain ⟨length, isSealed⟩ := succeeds.mpr ⟨by decide, by decide, by decide⟩
    obtain ⟨rfl, inHolder⟩ := same length isSealed
    obtain ⟨sealed, answeredThere, sameFrame⟩ := inHolder oneByteHolder rfl (by decide)
    have isOk : outcome = _ := isSealed
    exact ⟨enclosed, sealed, by rw [answered, isOk], answeredThere, sameFrame⟩

end Gatehouse.Frame
