import Gatehouse.Session.Game.Basic

namespace Gatehouse

/-!
# The game service

A session for every slot, and one pool of blocks for the frames of all of them.
-/

/-- The game service. -/
structure GameService where
  config : Configuration
  key : KeyPair
  pool : BlockPool
  sessions : List GameSession
deriving DecidableEq, Repr

namespace GameService

/-- Some sessions of no connection. -/
def newSessions (count maxQueued : Nat) : Checked (List GameSession) := do
  Size.checkTable count GameSession.footprint
  if count = 0 then
    return []
  return List.replicate count (← GameSession.ofLimit maxQueued)

/-- A service whose blocks are carved from the arena on demand. -/
def ofArena (arena : Arena) (key : KeyPair) (config : Configuration) : Checked GameService := do
  return {
    config := config
    key := key
    pool := .ofArena arena config.game.outputBufferSize
    sessions := ← newSessions config.game.maxConnections config.game.maxQueuedMessages
  }

/-- The service with its blocks carved from what an arena became in the meantime. -/
def onArena (service : GameService) (arena : Arena) : GameService :=
  { service with pool := { service.pool with arena := arena } }

/-- The number of sessions. -/
def capacity (service : GameService) : Nat :=
  service.sessions.length

/-- Replace the session of a slot and the pool. -/
def withSession
    (service : GameService)
    (slot : Nat)
    (session : GameSession)
    (pool : BlockPool) :
    GameService :=
  { service with sessions := service.sessions.set slot session, pool := pool }

/-- Bind a slot to a new connection. -/
def accept (service : GameService) (slot : Nat) (peer : SocketAddress) : Checked GameService := do
  let session ← Checked.lookUp service.sessions slot
  let (session, pool) := session.clear service.pool
  return service.withSession slot { session with peer? := some peer } pool

/-- Wipe the session of a slot. -/
def drop (service : GameService) (slot : Nat) : Checked GameService := do
  let session ← Checked.lookUp service.sessions slot
  let (session, pool) := session.clear service.pool
  return service.withSession slot session pool

/-- Take a message. -/
def read
    (service : GameService)
    (slot : Nat)
    (message : Bytes) :
    Checked (Bytes × GameService) := do
  let session ← Checked.lookUp service.sessions slot
  let after ← session.read service.config service.key service.pool message
  return (after.message, service.withSession slot after.session after.pool)

/-- Stage the next output. -/
def produce (service : GameService) (slot : Nat) : Checked (Nat × GameService) := do
  let session ← Checked.lookUp service.sessions slot
  let (length, session, pool) ← session.produce service.pool
  return (length, service.withSession slot session pool)

/-- The staged output. -/
def staged (service : GameService) (slot : Nat) : Checked Bytes := do
  (← Checked.lookUp service.sessions slot).staged

/-- Whether the connection of a slot goes on. -/
def status (service : GameService) (slot : Nat) : Checked Disposition := do
  return (← Checked.lookUp service.sessions slot).status

/-- The game service as the transport sees it. -/
def protocol : ConnectionProtocol GameService where
  accept := accept
  drop := drop
  read := read
  produce := produce
  staged := staged
  status := status

end GameService

end Gatehouse
