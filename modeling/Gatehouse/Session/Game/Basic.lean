import Gatehouse.Configuration.Basic
import Gatehouse.Hello.Reading
import Gatehouse.Outgoing.FrameQueue
import Gatehouse.Session.Game.Command
import Gatehouse.Session.Game.Reply
import Gatehouse.Session.ConnectionProtocol

namespace Gatehouse

/-!
# Game sessions

The server speaks first: a fixed challenge goes out, then the client's handshake
is awaited. A client that is let in receives the world snapshot and may send
commands; one that is not receives a reason. Replies wait in the session's
frame queue, and one message at a time is sealed and staged. When the queue
is full, the connection ends instead of losing a reply unnoticed.
-/

/-- Where a game session stands. -/
inductive GamePhase where
  /-- The challenge was not yet handed over. -/
  | challenging
  /-- The challenge was handed over. -/
  | challenged
  /-- Waiting for the handshake. -/
  | awaitingHello
  /-- In the world. -/
  | inWorld
  /-- A reason for the end waits in the queue. -/
  | dismissing
  /-- The reason was handed over. -/
  | dismissed
  /-- Nothing more will be sent. -/
  | ended
deriving DecidableEq, Repr

/-- One connection to the game service. -/
structure GameSession where
  phase : GamePhase
  peer? : Option SocketAddress
  key : CipherKey
  account : Credential
  character : Credential
  password : Credential
  queue : FrameQueue
  /-- The message that was handed over last. -/
  staged? : Option FrameDraft
  /-- Whether the challenge is what was handed over last. -/
  challengeStaged : Bool
deriving DecidableEq, Repr

/-- Why a client is not let in. -/
inductive LoginRefusal where
  | invalidAccount
  | invalidCharacter
deriving DecidableEq, Repr

/-- What the client is told. -/
def LoginRefusal.message : LoginRefusal → String
  | .invalidAccount => "Invalid account."
  | .invalidCharacter => "Invalid character."

namespace GameSession

/-- The first frame of every connection, sealed in advance. -/
def challenge : Bytes :=
  [0x0C, 0x00, 0x23, 0x03, 0xE8, 0x0A, 0x06, 0x00, 0x1F, 0xFF, 0xFF, 0x00, 0x00, 0xFF]

/-- The slot that a said item goes to. -/
def saidItemSlot : UInt8 := 6

/-- Bytes that a session takes in a table of sessions. -/
def footprint : Nat := 272

/-- A session of no connection. -/
def ofLimit (maxQueued : Nat) : Checked GameSession := do
  return {
    phase := .challenging
    peer? := none
    key := .zero
    account := .empty
    character := .empty
    password := .empty
    queue := ← FrameQueue.ofLimit maxQueued
    staged? := none
    challengeStaged := false
  }

/-- Whether nothing of a connection is left. -/
def isUntouched (session : GameSession) : Bool :=
  session.peer?.isNone &&
    session.key = .zero &&
    session.account.isEmpty &&
    session.character.isEmpty &&
    session.password.isEmpty &&
    session.queue.isEmpty &&
    session.staged?.isNone

/-- Give the block of a staged message back. -/
def releaseStaged (session : GameSession) (pool : BlockPool) : GameSession × BlockPool :=
  match session.staged? with
  | none => (session, pool)
  | some message => ({ session with staged? := none }, pool.release message.reclaimed)

/-- Wipe everything that a connection left; its blocks go back to the pool. -/
def clear (session : GameSession) (pool : BlockPool) : GameSession × BlockPool :=
  let (session, pool) := session.releaseStaged pool
  let (queue, pool) := session.queue.giveBack pool
  ({ session with
      phase := .challenging
      peer? := none
      key := .zero
      account := session.account.clear
      character := session.character.clear
      password := session.password.clear
      queue := queue
      challengeStaged := false },
    pool)

/-- Send nothing more. -/
def hangUp (session : GameSession) : GameSession :=
  { session with phase := .ended }

/-- Put a reply in the queue; a full queue ends the connection. -/
def send
    (session : GameSession)
    (pool : BlockPool)
    (reply : GameReply) :
    Checked (GameSession × BlockPool) := do
  match ← session.queue.ensureRoom pool reply.reservation with
  | none => return (session.hangUp, pool)
  | some (queue, pool) => return ({ session with queue := queue.append reply.packet }, pool)

/-- Put a reason in the queue and end the connection once it is sent. -/
def dismiss
    (session : GameSession)
    (pool : BlockPool)
    (reason : String) :
    Checked (GameSession × BlockPool) :=
  { session with phase := .dismissing }.send pool (.dismissal reason)

/-- Let the character into the world. -/
def letIn (session : GameSession) (pool : BlockPool) : Checked (GameSession × BlockPool) :=
  { session with phase := .inWorld }.send pool (.world session.character.bytes)

/-- The account of the name in a session, if the password in the session opens it. -/
def openedAccount? (config : Configuration) (session : GameSession) : Option Account :=
  (session.account.toText?.bind config.account?).filter fun account =>
    account.isOpenedBy (session.password.toText?.getD "")

/-- Why the credentials of a session do not let it in, if they do not. -/
def loginRefusal? (config : Configuration) (session : GameSession) : Option LoginRefusal :=
  match session.openedAccount? config with
  | none => some .invalidAccount
  | some account =>
      match session.character.toText? with
      | none => some .invalidCharacter
      | some character => if account.owns character then none else some .invalidCharacter

/-- Answer a handshake. -/
def answer
    (config : Configuration)
    (session : GameSession)
    (pool : BlockPool)
    (handshake : GameHello) :
    Checked (GameSession × BlockPool) :=
  let session := { session with key := handshake.key }
  if Hello.acceptsVersion handshake.version then
    let session := { session with
      account := handshake.account
      character := handshake.character
      password := handshake.password }
    match session.loginRefusal? config with
    | none => session.letIn pool
    | some refusal => session.dismiss pool refusal.message
  else
    session.dismiss pool Protocol.wrongVersion

/-- Serve a command. -/
def serve
    (session : GameSession)
    (pool : BlockPool) :
    GameCommand → Checked (GameSession × BlockPool)
  | .logout => .ok (session.hangUp, pool)
  | .unsupportedSpeech => .ok (session.hangUp, pool)
  | .ignored => .ok (session, pool)
  | .say value =>
      if 100 ≤ value then session.send pool (.item saidItemSlot value)
      else if value = 14 then session.dismiss pool "test"
      else if value = 15 then session.send pool .reloginPrompt
      else .ok (session, pool)

/-- A session and the pool after a message, and the message as it was left. -/
structure AfterRead where
  message : Bytes
  session : GameSession
  pool : BlockPool

/-- Take a message that should be a handshake. -/
def readHandshake
    (config : Configuration)
    (service : KeyPair)
    (session : GameSession)
    (pool : BlockPool)
    (message : Bytes) :
    Checked AfterRead := do
  let attempt ← Hello.readGame service message
  match attempt.outcome with
  | .error _ => return { message := attempt.buffer, session := session.hangUp, pool := pool }
  | .ok handshake =>
      let (session, pool) ← session.answer config pool handshake
      return { message := attempt.buffer, session := session, pool := pool }

/-- Take a message that should be a command. -/
def readCommand
    (session : GameSession)
    (pool : BlockPool)
    (message : Bytes) :
    Checked AfterRead := do
  let attempt ← Frame.extract message session.key
  match attempt.outcome with
  | .error _ => return { message := attempt.buffer, session := session.hangUp, pool := pool }
  | .ok payload =>
      let (session, pool) ← session.serve pool (.ofPayload payload)
      return { message := attempt.buffer, session := session, pool := pool }

/--
Take a message. The handshake may come before the transport asks again for
output; once a reason waits to be sent, messages are passed over.
-/
def read
    (config : Configuration)
    (service : KeyPair)
    (session : GameSession)
    (pool : BlockPool)
    (message : Bytes) :
    Checked AfterRead :=
  match session.phase with
  | .challenged | .awaitingHello =>
      session.readHandshake config service pool message
  | .inWorld => session.readCommand pool message
  | .dismissing | .dismissed =>
      .ok { message := message, session := session, pool := pool }
  | .challenging | .ended =>
      .ok { message := message, session := session.hangUp, pool := pool }

/-- The phase after a message was staged and the given queue is left. -/
def phaseAfterStaging (phase : GamePhase) (queue : FrameQueue) : GamePhase :=
  if phase = .dismissing ∧ queue.isEmpty then .dismissed else phase

/-- Seal and stage the oldest message; one that cannot be sealed ends the connection. -/
def stageNext
    (session : GameSession)
    (pool : BlockPool) :
    Checked (Nat × GameSession × BlockPool) := do
  let (session, pool) := session.releaseStaged pool
  match session.queue.pop? with
  | none => return (0, session, pool)
  | some (message, queue) =>
      let session := { session with queue := queue }
      match ← message.sealWith session.key with
      | (.error _, message) => return (0, session.hangUp, pool.release message.reclaimed)
      | (.ok length, message) =>
          return (length,
            { session with
              staged? := some message
              phase := phaseAfterStaging session.phase queue },
            pool)

/-- Stage the next output. -/
def produce
    (session : GameSession)
    (pool : BlockPool) :
    Checked (Nat × GameSession × BlockPool) :=
  let session := { session with challengeStaged := false }
  match session.phase with
  | .challenging =>
      .ok (challenge.length,
        { session with phase := .challenged, challengeStaged := true },
        pool)
  | .challenged => .ok (0, { session with phase := .awaitingHello }, pool)
  | .inWorld | .dismissing => session.stageNext pool
  | .dismissed => .ok (0, session.hangUp, pool)
  | .awaitingHello | .ended => .ok (0, session, pool)

/-- The staged output; empty if nothing was staged. -/
def staged (session : GameSession) : Checked Bytes :=
  if session.challengeStaged then
    .ok challenge
  else
    match session.staged? with
    | none => .ok []
    | some message => message.frame

/-- Whether the connection goes on. -/
def status (session : GameSession) : Disposition :=
  if session.phase = .ended then .closing else .isOpen

end GameSession

end Gatehouse
