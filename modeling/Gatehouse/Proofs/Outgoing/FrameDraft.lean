import Gatehouse.Outgoing.FrameDraft
import Gatehouse.Proofs.Frame.Sealing
import Gatehouse.Proofs.Packet.Writing

namespace Gatehouse.FrameDraft

/-!
# Drafts that can be sealed

A sound draft holds the packets collected behind the space for a header, and
still has room for the longest padding. It can be sealed under every key as
soon as it holds anything, and then shows the frame around its payload.
-/

/-- The bytes of the packets collected. -/
def payload (draft : FrameDraft) : Bytes :=
  (draft.block.bytes.take draft.length).drop Frame.headerLength

/-- A draft in a block of some size that holds only whole packets and leaves room for padding. -/
structure IsSound (size : Nat) (draft : FrameDraft) : Prop where
  block_length : draft.block.length = size
  unspoiled : draft.spoiled = false
  headed : Frame.headerLength ≤ draft.length
  padded : draft.length + maxPadding ≤ size

/-- A sealed draft in a block of some size that shows a frame. -/
structure Shows (size : Nat) (frame : Bytes) (draft : FrameDraft) : Prop where
  block_length : draft.block.length = size
  sealedLength_eq : draft.sealedLength = frame.length
  frame_eq : draft.frame = .ok frame

@[simp]
theorem payload_ofBlock (block : Block) : (ofBlock block).payload = [] := by
  simp [payload, ofBlock]

/-- A new draft is sound if its block holds a header and padding. -/
theorem isSound_ofBlock
    {block : Block}
    {size : Nat}
    (block_length : block.length = size)
    (large : Frame.headerLength + maxPadding ≤ size) :
    (ofBlock block).IsSound size :=
  ⟨block_length, rfl, Nat.le_refl _, large⟩

theorem bytes_reclaimed
    {draft : FrameDraft}
    {size : Nat}
    (block_length : draft.block.length = size) :
    draft.reclaimed.bytes = Bytes.zeros size := by
  rw [← block_length]
  rfl

/-- A packet, whether it fits or not, leaves the block as long as it is. -/
theorem length_block_append (draft : FrameDraft) (packet : Packet) :
    (draft.append packet).block.length = draft.block.length := by
  rw [Block.length, append, Writer.length_buffer_of_packet]
  split
  next spoiled =>
    exact congrArg List.length (Writer.buffer_startingAt _ _)
  next whole =>
    rw [Writer.buffer_startingAt, Block.length]

/--
Sealing leaves the block as long as it is, and a sealed frame, which is as long
as it says, ends inside it.
-/
theorem sealWith_keeps
    {draft after : FrameDraft}
    {key : CipherKey}
    {outcome : Except FrameError Nat}
    (done : draft.sealWith key = .ok (outcome, after)) :
    after.block.length = draft.block.length ∧
      ∀ length,
        outcome = .ok length →
        after.sealedLength = length ∧ length ≤ after.block.length := by
  unfold sealWith at done
  split at done
  next spoiled =>
    cases done
    exact ⟨rfl, fun _ impossible => by cases impossible⟩
  next whole =>
    obtain ⟨payloadLength, _, done⟩ := Checked.bind_eq_ok.mp done
    obtain ⟨attempt, attempted, done⟩ := Checked.bind_eq_ok.mp done
    obtain ⟨kept, inside⟩ := Frame.sealPayload_keeps attempted
    split at done
    next error refused =>
      cases done
      exact ⟨kept, fun _ impossible => by cases impossible⟩
    next length isSealed =>
      cases done
      refine ⟨kept, fun other same => ?_⟩
      cases same
      refine ⟨rfl, ?_⟩
      simp only [Block.length, kept]
      exact inside length isSealed

/-- The frame of a draft that was sealed is shown in full. -/
theorem exists_frame_of_sealWith
    {draft after : FrameDraft}
    {key : CipherKey}
    {length : Nat}
    (done : draft.sealWith key = .ok (.ok length, after)) :
    ∃ shown, after.frame = .ok shown ∧ shown.length = length := by
  obtain ⟨_, inside⟩ := sealWith_keeps done
  obtain ⟨length_eq, fits⟩ := inside length rfl
  refine ⟨after.block.bytes.take length, ?_, List.length_take_of_le fits⟩
  rw [frame, length_eq, Bytes.slice_eq_ok]
  exact ⟨⟨Nat.zero_le _, fits⟩, by rw [List.drop_zero, Nat.sub_zero]⟩

namespace IsSound

variable {size : Nat} {draft : FrameDraft} (sound : draft.IsSound size)

include sound

theorem length_eq : draft.length = Frame.headerLength + draft.payload.length := by
  have headed := sound.headed
  have padded := sound.padded
  have block_length := sound.block_length
  simp only [Block.length] at block_length
  rw [payload, List.length_drop, List.length_take]
  omega

/-- The frame around the payload fits the block. -/
theorem lengthAround_le : Frame.lengthAround draft.payload.length ≤ size := by
  have length_eq := sound.length_eq
  have padded := sound.padded
  have balance := Frame.lengthAround_eq draft.payload.length
  have padding := Frame.paddingAround_lt draft.payload.length
  simp only [maxPadding] at padded
  omega

theorem slice_eq :
    draft.block.bytes.slice Frame.headerLength (Frame.headerLength + draft.payload.length) =
      .ok draft.payload := by
  have headed := sound.headed
  have padded := sound.padded
  have block_length := sound.block_length
  simp only [Block.length] at block_length
  rw [← sound.length_eq, Bytes.slice_eq_ok, payload]
  refine ⟨⟨headed, by omega⟩, ?_⟩
  rw [List.drop_take]

theorem takes_eq
    {count : Nat}
    (isSize : count + maxPadding < Size.limit) :
    draft.takes count = .ok (decide (draft.length + count + maxPadding ≤ size)) := by
  have padded := sound.padded
  have room : Size.sub draft.block.length draft.length = .ok (size - draft.length) := by
    rw [Size.sub_eq_ok, sound.block_length]
    exact ⟨by omega, rfl⟩
  have wanted : Size.add count maxPadding = .ok (count + maxPadding) :=
    Size.check_eq_ok.mpr ⟨isSize, rfl⟩
  simp only [takes, sound.unspoiled, room, wanted, bind, Except.bind, pure, Except.pure,
    Bool.false_eq_true, if_false, Except.ok.injEq, decide_eq_decide]
  omega

/-- A packet that leaves room for padding is collected whole. -/
theorem append
    {packet : Packet}
    {bytes : Bytes}
    (encoded : packet.encoding? = some bytes)
    (fits : draft.length + bytes.length + maxPadding ≤ size) :
    (draft.append packet).IsSound size ∧
      (draft.append packet).payload = draft.payload ++ bytes := by
  have headed := sound.headed
  have block_length := sound.block_length
  simp only [Block.length] at block_length
  have inside : draft.length + bytes.length ≤ draft.block.bytes.length := by
    omega
  obtain ⟨intact, position, written⟩ := Writer.startingAt_packet encoded inside
  have appended :
      draft.append packet =
        { draft with
          block := { draft.block with bytes := draft.block.bytes.overwrite draft.length bytes }
          length := draft.length + bytes.length
          spoiled := false } := by
    simp [FrameDraft.append, sound.unspoiled, intact, position, written]
  rw [appended]
  refine ⟨⟨?_, rfl, ?_, fits⟩, ?_⟩
  · rw [Block.length, Bytes.length_overwrite, block_length]
  · exact Nat.le_trans headed (Nat.le_add_right _ _)
  · have front : (draft.block.bytes.take draft.length).length = draft.length := by
      rw [List.length_take]
      omega
    have taken :
        (draft.block.bytes.overwrite draft.length bytes).take (draft.length + bytes.length) =
          draft.block.bytes.take draft.length ++ bytes := by
      rw [Bytes.overwrite_of_fits inside, ← List.append_assoc]
      apply List.take_left'
      rw [List.length_append, front]
    rw [payload, taken, List.drop_append_of_le_length (by omega)]
    rfl

/-- A sound draft that is not empty is sealed, and then shows the frame around its payload. -/
theorem sealWith_eq
    (key : CipherKey)
    (small : size ≤ Frame.maxLength)
    (nonempty : draft.payload ≠ []) :
    ∃ after,
      draft.sealWith key = .ok (.ok (Frame.lengthAround draft.payload.length), after) ∧
        after.Shows size (Frame.frameAround key draft.payload) := by
  have padded := sound.padded
  have block_length := sound.block_length
  simp only [Block.length] at block_length
  have length_eq := sound.length_eq
  have short := Frame.paddingAround_lt draft.payload.length
  have balance := Frame.lengthAround_eq draft.payload.length
  have fits : Frame.lengthAround draft.payload.length ≤ draft.block.bytes.length := by
    simp only [maxPadding] at padded
    omega
  have done :=
    Frame.sealPayload_of_fits key sound.slice_eq nonempty fits (by omega)
  have counted : draft.payloadLength = .ok draft.payload.length := by
    rw [payloadLength, Size.sub_eq_ok]
    omega
  refine ⟨{ draft with
    block := { draft.block with
      bytes :=
        Frame.frameAround key draft.payload ++
          draft.block.bytes.drop (Frame.lengthAround draft.payload.length) }
    sealedLength := Frame.lengthAround draft.payload.length }, ?_, ?_, ?_, ?_⟩
  · simp only [sealWith, sound.unspoiled, counted, done, bind, Except.bind, pure, Except.pure,
      Bool.false_eq_true, if_false]
  · rw [Block.length, List.length_append, List.length_drop, Frame.length_frameAround]
    omega
  · exact (Frame.length_frameAround key draft.payload).symm
  · simp only [frame, Bytes.slice_eq_ok, List.drop_zero, Nat.sub_zero, Nat.zero_le, true_and,
      List.length_append, Frame.length_frameAround]
    exact ⟨Nat.le_add_right _ _, (List.take_left' (Frame.length_frameAround _ _)).symm⟩

end IsSound

end Gatehouse.FrameDraft
