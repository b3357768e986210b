import Gatehouse.Packet.Reply
import Gatehouse.Packet.World

namespace Gatehouse

/-!
# Replies of the game service

What the game service sends after its challenge. Each kind of reply asks the
frame queue for a number of bytes; the world snapshot asks for zero, which
gives it a message of its own.
-/

/-- A reply of the game service. -/
inductive GameReply where
  /-- The connection ends, for a reason. -/
  | dismissal (reason : String)
  /-- The character enters the world. -/
  | world (character : Bytes)
  /-- An item in an inventory slot. -/
  | item (slot : UInt8) (kind : UInt16)
  /-- The client asks whether to log in again. -/
  | reloginPrompt
deriving DecidableEq, Repr

namespace GameReply

def packet : GameReply → Packet
  | .dismissal reason => Packet.gameDisconnect (Bytes.ofText reason)
  | .world character => World.snapshot character
  | .item slot kind => Packet.inventoryItem slot kind
  | .reloginPrompt => Packet.reloginPrompt

/-- Bytes asked of the queue. -/
def reservation : GameReply → Nat
  | .dismissal _ => 256
  | .world _ => 0
  | .item _ _ => 4
  | .reloginPrompt => 1

end GameReply

end Gatehouse
