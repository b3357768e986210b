import Gatehouse.Transport.Channel
import Gatehouse.Session.ConnectionProtocol

namespace Gatehouse

/-!
# The turn of a connection

In every pass each connection gets one turn: it reads all messages that have
come, writes one output, and is then checked for its end. The first of the three
that ends the connection ends the turn too.
-/

/-- How a connection ends. -/
inductive Ending where
  /-- In order, after all output. -/
  | closed
  /-- At once, after an error. -/
  | aborted
  /-- At once, because nothing moved. -/
  | timedOut
deriving DecidableEq, Repr

/-- What the connections of a service did so far. -/
structure Counters where
  accepted : Nat := 0
  /-- Connections that found every channel taken. -/
  rejected : Nat := 0
  closed : Nat := 0
  aborted : Nat := 0
  timedOut : Nat := 0
  messagesRead : Nat := 0
  bytesRead : Nat := 0
  bytesWritten : Nat := 0
deriving DecidableEq, Repr

/-- Count the end of a connection. -/
def Counters.countEnding (counters : Counters) : Ending → Counters
  | .closed => { counters with closed := counters.closed + 1 }
  | .aborted => { counters with aborted := counters.aborted + 1 }
  | .timedOut => { counters with timedOut := counters.timedOut + 1 }

/-- When a pass does what, in nanoseconds. -/
structure PassClock where
  /-- When connections are accepted. -/
  accepting : Nat
  /-- When connections are checked for idleness. -/
  checking : Nat
  /-- When bytes move. -/
  moving : Nat
deriving DecidableEq, Repr

/-- What a turn works on: the channel, the protocol behind it, and the counters. -/
structure Turn (σ : Type) where
  channel : Channel
  service : σ
  counters : Counters

/-- A turn so far, and whether the connection ended in it. -/
structure AfterTurn (σ : Type) where
  ending? : Option Ending
  turn : Turn σ

namespace Turn

/-- The turn once some bytes were read. -/
def afterRead (turn : Turn σ) (step : ChannelStep ReadStop) : Turn σ :=
  { turn with
    channel := step.channel
    counters := { turn.counters with bytesRead := turn.counters.bytesRead + step.moved } }

/-- The turn once some bytes were written. -/
def afterWrite (turn : Turn σ) (step : ChannelStep WriteStop) : Turn σ :=
  { turn with
    channel := step.channel
    counters := { turn.counters with bytesWritten := turn.counters.bytesWritten + step.moved } }

/-- The turn once a message was handled, which leaves these bytes in its place. -/
def afterMessage (turn : Turn σ) (message : Bytes) (service : σ) : Turn σ where
  channel := (turn.channel.putMessage message).awaitNext
  service := service
  counters := { turn.counters with messagesRead := turn.counters.messagesRead + 1 }

/-- Read and hand over all messages that have come. -/
def read
    (protocol : ConnectionProtocol σ)
    (index now : Nat)
    (turn : Turn σ) :
    Checked (AfterTurn σ) :=
  if turn.channel.readable && !turn.channel.closing then
    match _event : (turn.channel.receiveMessage now).event with
    | .message length => do
        let turn' := turn.afterRead (turn.channel.receiveMessage now)
        let message ← turn'.channel.message length
        let (message, service) ← protocol.read turn.service index message
        Turn.read protocol index now (turn'.afterMessage (message.take length) service)
    | .wouldBlock =>
        .ok { ending? := none, turn := turn.afterRead (turn.channel.receiveMessage now) }
    | .peerClosed =>
        .ok { ending? := some .closed, turn := turn.afterRead (turn.channel.receiveMessage now) }
    | .badLength _ | .failed _ =>
        .ok { ending? := some .aborted, turn := turn.afterRead (turn.channel.receiveMessage now) }
  else
    .ok { ending? := none, turn := turn }
termination_by turn.channel.work
decreasing_by exact Channel.work_receiveMessage_of_message _event

/-- Stage the next output if nothing is being written; answers whether anything is to be written. -/
def stage
    (protocol : ConnectionProtocol σ)
    (index : Nat)
    (turn : Turn σ) :
    Checked (Bool × Turn σ) := do
  if turn.channel.isWriting then
    return (true, turn)
  if turn.channel.closing then
    return (false, turn)
  let (length, service) ← protocol.produce turn.service index
  if length = 0 then
    return (false, { turn with service := service })
  return (true, { turn with channel := turn.channel.startWriting length, service := service })

/-- Write the output that is staged, or else the next one. -/
def write
    (protocol : ConnectionProtocol σ)
    (index now : Nat)
    (turn : Turn σ) :
    Checked (AfterTurn σ) := do
  if !turn.channel.writable then
    return { ending? := none, turn := turn }
  let (isStaged, turn) ← turn.stage protocol index
  if !isStaged then
    return { ending? := none, turn := turn }
  let step := turn.channel.transmit (← protocol.staged turn.service index) now
  let ending? := match step.event with
    | .drained | .wouldBlock => none
    | .failed _ => some .aborted
  return { ending? := ending?, turn := turn.afterWrite step }

/-- Whether a connection has to end: it was closed and all is written, or nothing moved. -/
def ending? (channel : Channel) (now timeout : Nat) : Option Ending :=
  if channel.closing && !channel.isWriting then some .closed
  else if channel.isStalled now timeout then some .timedOut
  else none

/-- Note whether the protocol closes the connection, and check for the end. -/
def check
    (protocol : ConnectionProtocol σ)
    (index now timeout : Nat)
    (turn : Turn σ) :
    Checked (AfterTurn σ) := do
  let channel ←
    if turn.channel.closing then
      pure turn.channel
    else do
      match ← protocol.status turn.service index with
      | .isOpen => pure turn.channel
      | .closing => pure turn.channel.close
  return { ending? := ending? channel now timeout, turn := { turn with channel := channel } }

/-- Go on with a turn that did not end. -/
def orElse (after : AfterTurn σ) (next : Turn σ → Checked (AfterTurn σ)) : Checked (AfterTurn σ) :=
  match after.ending? with
  | some _ => .ok after
  | none => next after.turn

/-- A whole turn. -/
def take
    (protocol : ConnectionProtocol σ)
    (index timeout : Nat)
    (clock : PassClock)
    (turn : Turn σ) :
    Checked (AfterTurn σ) := do
  let afterReading ← turn.read protocol index clock.moving
  let afterWriting ← orElse afterReading (Turn.write protocol index clock.moving)
  orElse afterWriting (Turn.check protocol index clock.checking timeout)

end Turn

end Gatehouse
