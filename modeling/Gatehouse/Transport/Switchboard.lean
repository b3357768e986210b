import Gatehouse.Transport.Turn
import Gatehouse.Storage.IndexPool
import Gatehouse.Transport.Settings
import Gatehouse.Net.Host

namespace Gatehouse

/-!
# The switchboard

The transport of one service: a fixed number of channels, and the protocol that
the connections on them speak. A pass accepts the connections that came,
notes which sockets are ready, and gives every connection its turn. What goes
wrong with a connection ends that connection only.
-/

/-- A fixed number of connections that speak one protocol. -/
structure Switchboard (σ : Type) where
  settings : SwitchboardSettings
  channels : List Channel
  pool : IndexPool
  service : σ
  counters : Counters

/-- What is found when a connection is to be accepted. -/
inductive Incoming where
  /-- A connection; `watched` if its readiness can be asked for. -/
  | connection (socket : Socket) (peer : SocketAddress) (watched : Bool)
  | interrupted
  /-- Nothing more is accepted in this pass. -/
  | failed

/-- What a socket is reported to be ready for. -/
structure Readiness where
  slot : Nat
  readable : Bool
  writable : Bool
deriving DecidableEq, Repr

/-- What is answered to the question which sockets are ready. -/
inductive ReadinessReport where
  | ready (events : List Readiness)
  | interrupted
  | failed (reason : String)
deriving DecidableEq, Repr

/-- What a pass finds. -/
structure PassInput where
  clock : PassClock
  incoming : List Incoming
  report : ReadinessReport

/-- What a pass at some reading finds when nothing happens. -/
def PassInput.quiet (now : Nat) : PassInput where
  clock := { accepting := now, checking := now, moving := now }
  incoming := []
  report := .ready []

/-- A connection that ended. -/
structure Departure where
  slot : Nat
  peer? : Option SocketAddress
  socket? : Option Socket
  ending : Ending
deriving DecidableEq, Repr

/-- A switchboard after a pass: how the pass went, and the connections that ended in it. -/
structure AfterPass (σ : Type) where
  outcome : Except NetworkFailure Unit
  departures : List Departure
  switchboard : Switchboard σ

namespace Switchboard

/-- Channels whose read buffers are carved from an arena. -/
def carveChannels
    (arena : Arena)
    (settings : SwitchboardSettings)
    (now : Nat) :
    Checked (List Channel × Arena) := do
  Size.checkTable settings.capacity Channel.footprint
  let (blocks, arena) ← arena.carveMany settings.readBufferSize settings.capacity
  return (blocks.map fun block => Channel.ofBlock block now, arena)

/-- Listen for connections to a service, which is told of the arena once the channels are carved. -/
def listen
    (host : Host)
    (settings : SwitchboardSettings)
    (arena : Arena)
    (now : Nat)
    (serviceOf : Arena → σ) :
    Checked (Except NetworkFailure (Switchboard σ × Arena × Host)) := do
  match host.listen settings.bind with
  | .error error => return .error error
  | .ok host =>
      let (channels, arena) ← carveChannels arena settings now
      let pool ← IndexPool.ofCapacity settings.capacity
      let switchboard : Switchboard σ := {
        settings := settings
        channels := channels
        pool := pool
        service := serviceOf arena
        counters := {}
      }
      return .ok (switchboard, arena, host)

/-- Connections at one time. -/
def capacity (switchboard : Switchboard σ) : Nat :=
  switchboard.pool.capacity

/-- Connections now. -/
def takenCount (switchboard : Switchboard σ) : Nat :=
  switchboard.pool.takenCount

/-- Turn a connection away. -/
def reject (switchboard : Switchboard σ) : Switchboard σ :=
  let counters := switchboard.counters
  { switchboard with counters := { counters with rejected := counters.rejected + 1 } }

/-- Bind a connection to a slot that was acquired. -/
def admitTo
    (switchboard : Switchboard σ)
    (protocol : ConnectionProtocol σ)
    (slot : Nat)
    (socket : Socket)
    (peer : SocketAddress)
    (now : Nat) :
    Checked (Switchboard σ) := do
  let counters := switchboard.counters
  let service ← protocol.accept switchboard.service slot peer
  return { switchboard with
    channels := switchboard.channels.modify slot fun free => free.attach socket peer now
    service := service
    counters := { counters with accepted := counters.accepted + 1 } }

/-- Accept the connections that came. -/
def accept
    (protocol : ConnectionProtocol σ)
    (now : Nat)
    (switchboard : Switchboard σ) :
    List Incoming → Checked (Switchboard σ)
  | [] | .failed :: _ => .ok switchboard
  | .interrupted :: rest => switchboard.accept protocol now rest
  | .connection socket peer watched :: rest =>
      match switchboard.pool.acquire? with
      | none => switchboard.reject.accept protocol now rest
      | some (slot, pool) =>
          if watched then do
            let acquired := { switchboard with pool := pool }
            let admitted ← acquired.admitTo protocol slot socket peer now
            admitted.accept protocol now rest
          else
            let returned := { switchboard with pool := (pool.release slot).2 }
            returned.accept protocol now rest

/-- Note which sockets are ready. -/
def noteReadiness (switchboard : Switchboard σ) (events : List Readiness) : Switchboard σ :=
  { switchboard with
    channels := events.foldl
      (fun channels event =>
        channels.modify event.slot fun channel =>
          channel.noteReadiness event.readable event.writable)
      switchboard.channels }

/-- End the connection of a slot. -/
def tearDown
    (switchboard : Switchboard σ)
    (protocol : ConnectionProtocol σ)
    (slot : Nat)
    (ending : Ending) :
    Checked (Switchboard σ) := do
  let service ← protocol.drop switchboard.service slot
  return { switchboard with
    channels := switchboard.channels.modify slot Channel.detach
    pool := (switchboard.pool.release slot).2
    service := service
    counters := switchboard.counters.countEnding ending }

/-- Give the connection of a slot its turn; answers whether it ended. -/
def serve
    (switchboard : Switchboard σ)
    (protocol : ConnectionProtocol σ)
    (clock : PassClock)
    (slot : Nat)
    (connection : Channel) :
    Checked (Option Departure × Switchboard σ) := do
  let start : Turn σ := {
    channel := connection
    service := switchboard.service
    counters := switchboard.counters
  }
  let after ← start.take protocol slot switchboard.settings.idleLimit clock
  let switchboard := { switchboard with
    channels := switchboard.channels.set slot after.turn.channel
    service := after.turn.service
    counters := after.turn.counters }
  match after.ending? with
  | none => return (none, switchboard)
  | some ending =>
      let departure : Departure := {
        slot := slot
        peer? := after.turn.channel.peer?
        socket? := after.turn.channel.socket?
        ending := ending
      }
      return (some departure, ← switchboard.tearDown protocol slot ending)

/-- Give the live ones among some slots their turns, in order. -/
def serveAll
    (protocol : ConnectionProtocol σ)
    (clock : PassClock)
    (switchboard : Switchboard σ) :
    List Nat → Checked (List Departure × Switchboard σ)
  | [] => .ok ([], switchboard)
  | slot :: rest => do
      if switchboard.pool.isTaken slot then
        let connection ← Checked.lookUp switchboard.channels slot
        let (departure?, switchboard) ← switchboard.serve protocol clock slot connection
        let (departures, switchboard) ← switchboard.serveAll protocol clock rest
        return (departure?.toList ++ departures, switchboard)
      else
        switchboard.serveAll protocol clock rest

/-- Give every connection its turn, once it is known which sockets are ready. -/
def serveReady
    (switchboard : Switchboard σ)
    (protocol : ConnectionProtocol σ)
    (clock : PassClock)
    (events : List Readiness) :
    Checked (AfterPass σ) := do
  let switchboard := switchboard.noteReadiness events
  let (departures, switchboard) ←
    switchboard.serveAll protocol clock switchboard.pool.takenIndices
  return { outcome := .ok (), departures := departures, switchboard := switchboard }

def pass
    (switchboard : Switchboard σ)
    (protocol : ConnectionProtocol σ)
    (input : PassInput) :
    Checked (AfterPass σ) := do
  let switchboard ← switchboard.accept protocol input.clock.accepting input.incoming
  match input.report with
  | .ready events => switchboard.serveReady protocol input.clock events
  | .interrupted => switchboard.serveReady protocol input.clock []
  | .failed reason =>
      return { outcome := .error (.readiness reason), departures := [], switchboard := switchboard }

end Switchboard

end Gatehouse
