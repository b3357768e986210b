import Gatehouse.Transport.Socket
import Gatehouse.Storage.Arena
import Gatehouse.Net.SocketAddress

namespace Gatehouse

/-!
# Channels

A channel is the place of one connection. Messages come in as a two-byte length and a body;
the channel takes bytes from its socket until a message is whole, in however many
pieces they come. Going out, it remembers how much of the staged output is
written.
-/

/-- What the next bytes belong to. -/
inductive ReadProgress where
  /-- The length of a message; so many bytes of it are here. -/
  | awaitingLength (position : Nat)
  /-- A body of some length; so many bytes of it are in the read buffer. -/
  | awaitingBody (length position : Nat)
deriving DecidableEq, Repr

namespace ReadProgress

/-- Bytes of the length in front of a message. -/
def lengthWidth : Nat := 2

/-- Nothing of a message is here yet. -/
def start : ReadProgress :=
  .awaitingLength 0

/-- Bytes that are missing from what is being read. -/
def missing : ReadProgress → Nat
  | .awaitingLength position => lengthWidth - position
  | .awaitingBody length position => length - position

end ReadProgress

/-- The bytes in front of a message, which say how long it is. -/
structure LengthField where
  bytes : Bytes
  length_eq : bytes.length = ReadProgress.lengthWidth
deriving DecidableEq, Repr

namespace LengthField

def zero : LengthField where
  bytes := Bytes.zeros ReadProgress.lengthWidth
  length_eq := Bytes.length_zeros _

/-- Put bytes into the field from some position on. -/
def fill (field : LengthField) (position : Nat) (data : Bytes) : LengthField where
  bytes := Bytes.overwrite field.bytes position data
  length_eq := (Bytes.length_overwrite _ _ _).trans field.length_eq

/-- The length that the field says. -/
def value (field : LengthField) : Nat :=
  (Bytes.toUInt16 field.bytes).toNat

end LengthField

/-- How reading ended. -/
inductive ReadStop where
  /-- A message of this length is in the read buffer. -/
  | message (length : Nat)
  | wouldBlock
  | peerClosed
  /-- A message cannot have this length. -/
  | badLength (length : Nat)
  | failed (error : SocketError)
deriving DecidableEq, Repr

/-- How writing ended. -/
inductive WriteStop where
  /-- All of the staged output is written. -/
  | drained
  | wouldBlock
  | failed (error : SocketError)
deriving DecidableEq, Repr

/-- A place for one connection. -/
structure Channel where
  socket? : Option Socket
  peer? : Option SocketAddress
  progress : ReadProgress
  lengthField : LengthField
  /-- The read buffer. -/
  buffer : Block
  /-- Bytes of the staged output that are written. -/
  writePosition : Nat
  /-- Bytes of the staged output. -/
  writeLength : Nat
  /-- Whether the socket may have something to read. -/
  readable : Bool
  /-- Whether the socket may have room to write. -/
  writable : Bool
  /-- Whether the connection ends once the staged output is written. -/
  closing : Bool
  /-- When bytes last moved, in nanoseconds. -/
  lastActivity : Nat
deriving DecidableEq, Repr

/-- How an operation on a channel ended, the bytes it moved, and the channel afterwards. -/
structure ChannelStep (ε : Type) where
  event : ε
  moved : Nat
  channel : Channel

namespace Channel

/-- Bytes that a channel takes in a table of channels. -/
def footprint : Nat := 128

/-- A channel of no connection around a read buffer. -/
def ofBlock (buffer : Block) (now : Nat) : Channel where
  socket? := none
  peer? := none
  progress := .start
  lengthField := .zero
  buffer := buffer
  writePosition := 0
  writeLength := 0
  readable := false
  writable := false
  closing := false
  lastActivity := now

/-- Bind a channel to a new connection. -/
def attach (channel : Channel) (socket : Socket) (peer : SocketAddress) (now : Nat) :
    Channel :=
  { ofBlock channel.buffer now with
    socket? := some socket
    peer? := some peer
    lengthField := channel.lengthField }

/-- Wipe everything that a connection left. -/
def detach (channel : Channel) : Channel :=
  ofBlock channel.buffer.wipe channel.lastActivity

/-- Note what the socket may be ready for. -/
def noteReadiness (channel : Channel) (readable writable : Bool) : Channel :=
  { channel with
    readable := channel.readable || readable
    writable := channel.writable || writable }

/-- End the connection once the staged output is written. -/
def close (channel : Channel) : Channel :=
  { channel with closing := true }

/-- Whether some of the staged output is not written yet. -/
def isWriting (channel : Channel) : Bool :=
  channel.writePosition < channel.writeLength

/-- Start to write an output of some length. -/
def startWriting (channel : Channel) (length : Nat) : Channel :=
  { channel with writePosition := 0, writeLength := length }

/-- Whether no bytes moved for longer than a timeout. -/
def isStalled (channel : Channel) (now timeout : Nat) : Bool :=
  timeout < now - channel.lastActivity

/-- The first bytes of the read buffer. -/
def message (channel : Channel) (length : Nat) : Checked Bytes :=
  channel.buffer.bytes.slice 0 length

/-- Put bytes at the front of the read buffer. -/
def putMessage (channel : Channel) (message : Bytes) : Channel :=
  { channel with
    buffer := { channel.buffer with bytes := Bytes.overwrite channel.buffer.bytes 0 message } }

/-- Go on to the next message. -/
def awaitNext (channel : Channel) : Channel :=
  { channel with progress := .start }

/-- A measure of what the socket has left to give. -/
def work (channel : Channel) : Nat :=
  channel.socket?.elim 0 Socket.work

/-- Whether a message can have a length. -/
def admitsLength (channel : Channel) (length : Nat) : Bool :=
  0 < length && length ≤ channel.buffer.length

/-- Take in bytes that were missing; answers an event if that settles what comes next. -/
def absorb (channel : Channel) (data : Bytes) : Option ReadStop × Channel :=
  match channel.progress with
  | .awaitingLength position =>
      let field := channel.lengthField.fill position data
      let next := position + data.length
      if next < ReadProgress.lengthWidth then
        (none, { channel with lengthField := field, progress := .awaitingLength next })
      else if channel.admitsLength field.value then
        (none, { channel with lengthField := field, progress := .awaitingBody field.value 0 })
      else
        (some (.badLength field.value),
          { channel with lengthField := field, progress := .awaitingLength next })
  | .awaitingBody length position =>
      let bytes := Bytes.overwrite channel.buffer.bytes position data
      let next := position + data.length
      (if next < length then none else some (.message length),
        { channel with
          progress := .awaitingBody length next
          buffer := { channel.buffer with bytes := bytes } })

/-- Read from a socket until a message is whole or nothing more comes. -/
def readFrom
    (channel : Channel)
    (socket : Socket)
    (now moved : Nat) :
    ChannelStep ReadStop :=
  match _answered : socket.receive channel.progress.missing with
  | (.done [], socket) =>
      { event := .peerClosed, moved := moved, channel := { channel with socket? := some socket } }
  | (.done (byte :: rest), next) =>
      match { channel with socket? := some next, lastActivity := now }.absorb (byte :: rest) with
      | (some event, channel) =>
          { event := event, moved := moved + (rest.length + 1), channel := channel }
      | (none, channel) => channel.readFrom next now (moved + (rest.length + 1))
  | (.wouldBlock, socket) =>
      { event := .wouldBlock
        moved := moved
        channel := { channel with socket? := some socket, readable := false } }
  | (.interrupted, next) => channel.readFrom next now moved
  | (.failed error, socket) =>
      { event := .failed error, moved := moved, channel := { channel with socket? := some socket } }
termination_by socket.work
decreasing_by
  · exact Socket.work_receive_of_done _answered (List.cons_ne_nil _ _)
  · exact Socket.work_receive_of_interrupted _answered

/-- Read until a message is whole or nothing more comes. -/
def receiveMessage (channel : Channel) (now : Nat) : ChannelStep ReadStop :=
  match channel.socket? with
  | none => { event := .peerClosed, moved := 0, channel := channel }
  | some socket => channel.readFrom socket now 0

/-- Taking bytes in leaves the socket alone. -/
@[simp]
theorem socket?_absorb (channel : Channel) (data : Bytes) :
    (channel.absorb data).2.socket? = channel.socket? := by
  unfold absorb
  split
  · dsimp only
    split
    · rfl
    · split <;> rfl
  · rfl

/-- Reading a whole message leaves less to read. -/
theorem work_readFrom_of_message
    (channel : Channel)
    (socket : Socket)
    (now moved length : Nat)
    (whole : (channel.readFrom socket now moved).event = .message length) :
    (channel.readFrom socket now moved).channel.work < socket.work := by
  fun_induction readFrom channel socket now moved with
  | case1 => simp at whole
  | case2 channel socket moved byte rest next answered event after absorbed =>
      have kept :=
        socket?_absorb { channel with socket? := some next, lastActivity := now } (byte :: rest)
      rw [absorbed] at kept
      simp only at kept
      simp only [work, kept, Option.elim_some]
      exact Socket.work_receive_of_done answered (List.cons_ne_nil _ _)
  | case3 channel socket moved byte rest next answered after absorbed inductionHypothesis =>
      exact Nat.lt_trans (inductionHypothesis whole)
        (Socket.work_receive_of_done answered (List.cons_ne_nil _ _))
  | case4 => simp at whole
  | case5 channel socket moved next answered inductionHypothesis =>
      exact Nat.lt_trans (inductionHypothesis whole)
        (Socket.work_receive_of_interrupted answered)
  | case6 => simp at whole

/-- Reading a whole message leaves less to read. -/
theorem work_receiveMessage_of_message
    {channel : Channel}
    {now length : Nat}
    (whole : (channel.receiveMessage now).event = .message length) :
    (channel.receiveMessage now).channel.work < channel.work := by
  unfold receiveMessage at whole ⊢
  split at whole
  · simp at whole
  next socket bound =>
    have less := work_readFrom_of_message channel socket now 0 length whole
    simpa [work, bound] using less

/-- Write the staged output to a socket until it is all written or nothing more is taken. -/
def writeTo
    (channel : Channel)
    (socket : Socket)
    (staged : Bytes)
    (now moved : Nat) :
    ChannelStep WriteStop :=
  let rest := (staged.take channel.writeLength).drop channel.writePosition
  if _pending : rest.length = 0 then
    { event := .drained
      moved := moved
      channel := { channel with socket? := some socket, writePosition := channel.writeLength } }
  else
    match _sent : socket.send rest with
    | (.done 0, socket) =>
        { event := .failed .writeZero
          moved := moved
          channel := { channel with socket? := some socket } }
    | (.done (count + 1), next) =>
        { channel with
          writePosition := channel.writePosition + (count + 1)
          lastActivity := now }.writeTo next staged now (moved + (count + 1))
    | (.wouldBlock, socket) =>
        { event := .wouldBlock
          moved := moved
          channel := { channel with socket? := some socket, writable := false } }
    | (.interrupted, next) => channel.writeTo next staged now moved
    | (.failed error, socket) =>
        { event := .failed error
          moved := moved
          channel := { channel with socket? := some socket } }
termination_by (staged.length - channel.writePosition, socket.grants.length)
decreasing_by
  · apply Prod.Lex.left
    simp only [rest, List.length_drop, List.length_take] at _pending
    omega
  · apply Prod.Lex.right
    exact Socket.grants_send_of_interrupted _sent

/-- Write the staged output until it is all written or nothing more is taken. -/
def transmit (channel : Channel) (staged : Bytes) (now : Nat) : ChannelStep WriteStop :=
  match channel.socket? with
  | none => { event := .failed .notConnected, moved := 0, channel := channel }
  | some socket => channel.writeTo socket staged now 0

end Channel

end Gatehouse
