import Gatehouse.Session.Game.Reply
import Gatehouse.FixedText
import Gatehouse.Protocol
import Gatehouse.Proofs.Bytes.Text
import Gatehouse.Proofs.Packet.World

namespace Gatehouse.GameReply

/-!
# Replies that fit

The replies of the game service are modest: a reason is short and a character's
name is a credential. So every reply has an encoding, which is no longer than
what is asked of the queue for it, and which fits an outbound buffer of the
least size with a header and padding around it.
-/

/-- The bytes of some replies in a row. -/
def bytes? (replies : List GameReply) : Option Bytes :=
  Packet.encoding? (replies.flatMap packet)

/-- What the game service makes sure of before it sends a reply. -/
def IsModest : GameReply → Prop
  | .dismissal reason => 3 + reason.utf8ByteSize ≤ 256
  | .world character => character.length ≤ Credential.maxLength
  | .item _ _ | .reloginPrompt => True

instance (reply : GameReply) : Decidable reply.IsModest :=
  match reply with
  | .dismissal reason => inferInstanceAs (Decidable (3 + reason.utf8ByteSize ≤ 256))
  | .world character => inferInstanceAs (Decidable (character.length ≤ Credential.maxLength))
  | .item _ _ | .reloginPrompt => isTrue trivial

theorem bytes?_append_singleton
    {replies : List GameReply}
    {reply : GameReply}
    {front bytes : Bytes}
    (frontSpelled : bytes? replies = some front)
    (encoded : reply.packet.encoding? = some bytes) :
    bytes? (replies ++ [reply]) = some (front ++ bytes) := by
  have single : bytes? [reply] = some bytes := by
    simpa [bytes?] using encoded
  rw [bytes?, List.flatMap_append]
  exact Packet.encoding?_append frontSpelled single

theorem isEncodable_packet
    {reply : GameReply}
    (modest : reply.IsModest) :
    reply.packet.IsEncodable := by
  cases reply with
  | dismissal reason =>
      simp only [IsModest] at modest
      simp [packet, Packet.gameDisconnect, Field.IsEncodable]
      omega
  | world character =>
      simp only [IsModest, Credential.maxLength, FixedText.capacity] at modest
      exact World.isEncodable_snapshot (by omega)
  | item slot kind =>
      simp [packet, Packet.inventoryItem, Field.IsEncodable]
  | reloginPrompt =>
      simp [packet, Packet.reloginPrompt, Field.IsEncodable]

/-- A modest reply has bytes, as many as asked of the queue at most. -/
theorem encoding?_of_isModest
    {reply : GameReply}
    (modest : reply.IsModest) :
    ∃ bytes,
      reply.packet.encoding? = some bytes ∧
        bytes ≠ [] ∧
        (reply.reservation ≠ 0 → bytes.length ≤ reply.reservation) ∧
        bytes.length + 1000 ≤ Protocol.minOutboundCapacity := by
  obtain ⟨bytes, encoded, length_eq⟩ :=
    Packet.encoding?_of_isEncodable (isEncodable_packet modest)
  refine ⟨bytes, encoded, ?_⟩
  rw [← List.length_pos_iff, length_eq]
  cases reply with
  | dismissal reason =>
      simp only [IsModest] at modest
      simp only [packet, Packet.gameDisconnect, Packet.size_cons, Packet.size_nil, Field.size,
        Bytes.length_ofText, reservation, Protocol.minOutboundCapacity]
      omega
  | world character =>
      simp only [IsModest, Credential.maxLength, FixedText.capacity] at modest
      simp only [packet, World.size_snapshot, reservation, Protocol.minOutboundCapacity]
      omega
  | item slot kind =>
      simp [packet, Packet.inventoryItem, Field.size, reservation, Protocol.minOutboundCapacity]
  | reloginPrompt =>
      simp [packet, Packet.reloginPrompt, Field.size, reservation, Protocol.minOutboundCapacity]

/-- Little is asked of the queue. -/
theorem reservation_le (reply : GameReply) : reply.reservation ≤ 256 := by
  cases reply <;> simp [reservation]

end Gatehouse.GameReply
