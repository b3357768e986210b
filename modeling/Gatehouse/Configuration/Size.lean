import Gatehouse.Configuration.Basic
import Gatehouse.Frame

namespace Gatehouse

/-!
# Sizes that follow from a configuration

How long the login reply of an account will be, and how much of the arena the
services may carve. Both are computed in checked arithmetic: an absurd
configuration can make them overflow.
-/

namespace Configuration

/-- Bytes of one character in a login reply. -/
def entryLength (config : Configuration) (name : String) : Checked Nat := do
  let named ← Size.add (2 + 2 + 4 + 2) name.utf8ByteSize
  Size.add named config.login.worldName.utf8ByteSize

/-- Bytes of some characters in a login reply. -/
def entriesLength (config : Configuration) : List String → Checked Nat
  | [] => .ok 0
  | name :: rest => do
      let first ← config.entryLength name
      Size.add first (← config.entriesLength rest)

/-- Bytes of the sealed reply that lists the characters of an account. -/
def loginReplyLength (config : Configuration) (account : Account) : Checked Nat := do
  let motd ← Size.add (1 + 2) config.login.motd.utf8ByteSize
  let entries ← config.entriesLength account.characters
  let listed ← Size.add motd entries
  let payload ← Size.add listed (1 + 1 + 2)
  Frame.sealedLength payload

/-- Bytes of the arena that the services may carve. -/
def carvedBytes (config : Configuration) : Checked Nat := do
  let loginSlot ← Size.add config.login.readBufferSize Protocol.loginReplyCapacity
  let login ← Size.mul config.login.maxConnections loginSlot
  let gameReads ← Size.mul config.game.maxConnections config.game.readBufferSize
  let held ← Size.add config.game.maxQueuedMessages 1
  let gameBuffers ← Size.mul config.game.maxConnections held
  let gameOutbound ← Size.mul gameBuffers config.game.outputBufferSize
  Size.add (← Size.add login gameReads) gameOutbound

end Configuration

end Gatehouse
