import Gatehouse.LeadingInteger
import Gatehouse.Packet.Reader
import Gatehouse.Packet.Tag

namespace Gatehouse

/-!
# Commands of a client in the world

The payload of a frame from a client that is logged in: a tag, and for a said
text the way of speaking and the text. What matters of a text is the integer at
its front, modulo 2¹⁶; a text of 256 bytes or more, or one that is cut off,
counts as empty.
-/

/-- What a client asks for. -/
inductive GameCommand where
  | logout
  /-- Say a text with this integer at its front. -/
  | say (value : UInt16)
  /-- Speak in a way that is not supported, or in no way at all. -/
  | unsupportedSpeech
  /-- Nothing, or something that is not served. -/
  | ignored
deriving DecidableEq, Repr

namespace GameCommand

/-- The one way of speaking that is supported. -/
def sayType : UInt8 := 0x01

/-- Texts of this length or more count as empty. -/
def textLimit : Nat := 256

/-- The integer at the front of a text, modulo 2¹⁶. -/
def valueOf (text : Bytes) : UInt16 :=
  (LeadingInteger.ofBytes text).toUInt32.toUInt16

/-- The command after the tag of a said text. -/
def ofSpeech (reader : Reader) : GameCommand :=
  let (speakType?, reader) := Read.uint8.run reader
  if speakType? = some sayType then
    let (text?, _) := (Read.string textLimit).run reader
    .say (valueOf (text?.getD []))
  else
    .unsupportedSpeech

def ofPayload (payload : Bytes) : GameCommand :=
  let (tag?, reader) := Read.uint8.run (Reader.ofBytes payload)
  match tag? with
  | none => .ignored
  | some tag =>
      if tag = Tag.clientLogout then .logout
      else if tag = Tag.clientSay then ofSpeech reader
      else .ignored

end GameCommand

end Gatehouse
