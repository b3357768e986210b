import Gatehouse.Configuration.Basic
import Gatehouse.Hello.Reading
import Gatehouse.Storage.Arena
import Gatehouse.Packet.Reply
import Gatehouse.Session.ConnectionProtocol

namespace Gatehouse

/-!
# The login service

One handshake, one reply, then the connection closes. The reply is the message
of the day and the account's characters, or a refusal; it is built and sealed in
a buffer of the session. A reply that does not fit is not sent at all.
-/

/--
The account that a name and a password open. A name that is not text opens
none, and a password that is not text counts as empty.
-/
def Configuration.accountOpenedBy?
    (config : Configuration)
    (name password : Credential) :
    Option Account := do
  let account ← config.account? (← name.toText?)
  guard (account.isOpenedBy (password.toText?.getD ""))
  return account

/-- Where a login session stands. -/
inductive LoginPhase where
  /-- Waiting for the handshake. -/
  | awaitingHello
  /-- The reply is ready. -/
  | replying
  /-- The reply was handed over. -/
  | replied
  /-- Nothing more will be sent. -/
  | ended
deriving DecidableEq, Repr

/-- One connection to the login service. -/
structure LoginSession where
  phase : LoginPhase
  peer? : Option SocketAddress
  key : CipherKey
  account : Credential
  password : Credential
  /-- The buffer of the reply. -/
  reply : Block
  replyLength : Nat
deriving DecidableEq, Repr

namespace LoginSession

/-- Bytes that a session takes in a table of sessions. -/
def footprint : Nat := 176

/-- What a client with unknown credentials is told. -/
def wrongCredentials : String := "Invalid account name or password."

/-- A session of no connection. -/
def ofBlock (reply : Block) : LoginSession where
  phase := .awaitingHello
  peer? := none
  key := .zero
  account := .empty
  password := .empty
  reply := reply
  replyLength := 0

/-- Whether nothing of a connection is left. -/
def isUntouched (session : LoginSession) : Bool :=
  session.phase = .awaitingHello &&
    session.peer?.isNone &&
    session.key = .zero &&
    session.account.isEmpty &&
    session.password.isEmpty &&
    session.replyLength = 0 &&
    session.reply.bytes.all (· = 0)

/-- Wipe everything that a connection left. -/
def clear (session : LoginSession) : LoginSession where
  phase := .awaitingHello
  peer? := none
  key := .zero
  account := session.account.clear
  password := session.password.clear
  reply := session.reply.wipe
  replyLength := 0

/-- Send nothing more. -/
def hangUp (session : LoginSession) : LoginSession :=
  { session with phase := .ended }

/-- Build and seal a reply; without it the connection ends. -/
def send (session : LoginSession) (packet : Packet) : Checked LoginSession := do
  let writer := (Writer.startingAt session.reply.bytes Frame.headerLength).packet packet
  let payloadLength ← Size.sub writer.position Frame.headerLength
  let written := { session with reply := { session.reply with bytes := writer.buffer } }
  if !writer.intact then
    return written.hangUp
  let attempt ← Frame.sealPayload writer.buffer payloadLength session.key
  let attempted := { session with reply := { session.reply with bytes := attempt.buffer } }
  match attempt.outcome with
  | .error _ => return attempted.hangUp
  | .ok length => return { attempted with phase := .replying, replyLength := length }

/-- The entries of an account's characters. -/
def characterEntries (config : Configuration) (account : Account) : List CharacterListing :=
  account.characters.map fun name =>
    { name := Bytes.ofText name
      world := Bytes.ofText config.login.worldName
      host := config.login.gameHost
      port := config.login.gamePort }

/-- The message of the day and an account's characters. -/
def characterList (config : Configuration) (account : Account) : Packet :=
  Packet.motd (Bytes.ofText config.login.motd) ++
    Packet.characterList (characterEntries config account) account.premiumDays

/-- The reply to a handshake of the accepted version. -/
def replyTo (config : Configuration) (account password : Credential) : Packet :=
  match config.accountOpenedBy? account password with
  | some found => characterList config found
  | none => Packet.loginDisconnect (Bytes.ofText wrongCredentials)

/-- Answer a handshake. -/
def answer
    (config : Configuration)
    (session : LoginSession)
    (handshake : LoginHello) :
    Checked LoginSession :=
  let session := { session with key := handshake.key }
  if Hello.acceptsVersion handshake.version then
    let session :=
      { session with account := handshake.account, password := handshake.password }
    session.send (replyTo config session.account session.password)
  else
    session.send (Packet.loginDisconnect (Bytes.ofText Protocol.wrongVersion))

/-- Take a message; only a handshake that comes first is answered. -/
def read
    (config : Configuration)
    (service : KeyPair)
    (session : LoginSession)
    (message : Bytes) :
    Checked (Bytes × LoginSession) := do
  if session.phase ≠ .awaitingHello then
    return (message, session.hangUp)
  let attempt ← Hello.readLogin service message
  match attempt.outcome with
  | .error _ => return (attempt.buffer, session.hangUp)
  | .ok handshake => return (attempt.buffer, ← session.answer config handshake)

/-- Hand over the reply, and then end the connection. -/
def produce (session : LoginSession) : Nat × LoginSession :=
  match session.phase with
  | .replying => (session.replyLength, { session with phase := .replied })
  | .replied => (0, session.hangUp)
  | .awaitingHello | .ended => (0, session)

/-- The sealed reply; empty until there is one. -/
def staged (session : LoginSession) : Checked Bytes :=
  session.reply.bytes.slice 0 session.replyLength

/-- Whether the connection goes on. -/
def status (session : LoginSession) : Disposition :=
  if session.phase = .ended then .closing else .isOpen

end LoginSession

/-- The login service: a session for every slot. -/
structure LoginService where
  config : Configuration
  key : KeyPair
  sessions : List LoginSession
deriving DecidableEq, Repr

namespace LoginService

/-- A service whose reply buffers are carved from the arena. -/
def ofArena
    (arena : Arena)
    (key : KeyPair)
    (config : Configuration) :
    Checked (LoginService × Arena) := do
  Size.checkTable config.login.maxConnections LoginSession.footprint
  let (blocks, arena) ←
    arena.carveMany Protocol.loginReplyCapacity config.login.maxConnections
  return ({ config := config, key := key, sessions := blocks.map .ofBlock }, arena)

/-- The number of sessions. -/
def capacity (service : LoginService) : Nat :=
  service.sessions.length

/-- Replace the session of a slot. -/
def withSession (service : LoginService) (slot : Nat) (session : LoginSession) : LoginService :=
  { service with sessions := service.sessions.set slot session }

/-- Bind a slot to a new connection. -/
def accept (service : LoginService) (slot : Nat) (peer : SocketAddress) : Checked LoginService := do
  let session ← Checked.lookUp service.sessions slot
  return service.withSession slot { session.clear with peer? := some peer }

/-- Wipe the session of a slot. -/
def drop (service : LoginService) (slot : Nat) : Checked LoginService := do
  let session ← Checked.lookUp service.sessions slot
  return service.withSession slot session.clear

/-- Take a message. -/
def read
    (service : LoginService)
    (slot : Nat)
    (message : Bytes) :
    Checked (Bytes × LoginService) := do
  let session ← Checked.lookUp service.sessions slot
  let (message, session) ← session.read service.config service.key message
  return (message, service.withSession slot session)

/-- Stage the next output. -/
def produce (service : LoginService) (slot : Nat) : Checked (Nat × LoginService) := do
  let session ← Checked.lookUp service.sessions slot
  let (length, session) := session.produce
  return (length, service.withSession slot session)

/-- The staged output. -/
def staged (service : LoginService) (slot : Nat) : Checked Bytes := do
  (← Checked.lookUp service.sessions slot).staged

/-- Whether the connection of a slot goes on. -/
def status (service : LoginService) (slot : Nat) : Checked Disposition := do
  return (← Checked.lookUp service.sessions slot).status

/-- The login service as the transport sees it. -/
def protocol : ConnectionProtocol LoginService where
  accept := accept
  drop := drop
  read := read
  produce := produce
  staged := staged
  status := status

end LoginService

end Gatehouse
