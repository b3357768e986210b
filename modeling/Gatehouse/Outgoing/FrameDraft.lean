import Gatehouse.Frame
import Gatehouse.Storage.Arena
import Gatehouse.Packet.Writer

namespace Gatehouse

/-!
# Frame drafts

A draft collects packets in a block, behind the space for a frame's header,
and is sealed there once it is its turn to be sent. A packet that does not fit
spoils the draft, which then cannot be sealed.
-/

/-- Packets collected for one frame. -/
structure FrameDraft where
  block : Block
  /-- Where the next packet goes. -/
  length : Nat
  spoiled : Bool
  /-- The length of the sealed frame; zero until the draft is sealed. -/
  sealedLength : Nat
deriving DecidableEq, Repr

namespace FrameDraft

/-- Bytes that a draft takes in a table of drafts. -/
def footprint : Nat := 56

/-- The most bytes of padding in a frame. -/
def maxPadding : Nat := 7

/-- A draft without packets. -/
def ofBlock (block : Block) : FrameDraft where
  block := block
  length := Frame.headerLength
  spoiled := false
  sealedLength := 0

/-- Bytes of the packets collected; a block too short for a header stops the program. -/
def payloadLength (draft : FrameDraft) : Checked Nat :=
  Size.sub draft.length Frame.headerLength

/-- Whether `count` more bytes fit, padding included. -/
def takes (draft : FrameDraft) (count : Nat) : Checked Bool :=
  if draft.spoiled then
    .ok false
  else do
    let room ← Size.sub draft.block.length draft.length
    let wanted ← Size.add count maxPadding
    return wanted ≤ room

/-- Collect a packet. -/
def append (draft : FrameDraft) (packet : Packet) : FrameDraft :=
  let start := Writer.startingAt draft.block.bytes draft.length
  let writer := (if draft.spoiled then start.spoil else start).packet packet
  { draft with
    block := { draft.block with bytes := writer.buffer }
    length := writer.position
    spoiled := draft.spoiled || !writer.intact }

/-- Seal the packets collected. -/
def sealWith
    (draft : FrameDraft)
    (key : CipherKey) :
    Checked (Except FrameError Nat × FrameDraft) := do
  if draft.spoiled then
    let capacity := draft.block.length
    return (.error (.bufferTooSmall (capacity + 1) capacity), draft)
  let payloadLength ← draft.payloadLength
  let attempt ← Frame.sealPayload draft.block.bytes payloadLength key
  let draft := { draft with block := { draft.block with bytes := attempt.buffer } }
  match attempt.outcome with
  | .error error => return (.error error, draft)
  | .ok length => return (.ok length, { draft with sealedLength := length })

/-- The sealed frame; empty until the draft is sealed. -/
def frame (draft : FrameDraft) : Checked Bytes :=
  draft.block.bytes.slice 0 draft.sealedLength

/-- The block, wiped. -/
def reclaimed (draft : FrameDraft) : Block :=
  draft.block.wipe

end FrameDraft

end Gatehouse
