import Gatehouse.CommandLine
import Std.Internal.UV.TCP

namespace Gatehouse

/-!
# The program

Runs the services on real sockets. Everything that is decided is decided by the
services; this module only carries bytes, clock readings and files to and from
the operating system.
-/

open Std.Internal.UV

/-- A connection as the operating system holds it. -/
structure Link where
  peer : SocketAddress
  handle : TCP.Socket
  receiving : IO.Promise (Except IO.Error (Option ByteArray))
  sending? : Option (IO.Promise (Except IO.Error Unit))

/-- A listening socket and the connections that came over it. -/
structure Endpoint where
  listener : TCP.Socket
  links : List Link

/-- An address as the operating system takes it. -/
def SocketAddress.toSystem : SocketAddress → Std.Net.SocketAddress
  | .overIPv4 host port =>
      .v4 {
        addr := { octets := #v[host.octet0, host.octet1, host.octet2, host.octet3] }
        port := port
      }
  | .overIPv6 host _ port =>
      .v6 {
        addr := { segments := Vector.ofFn fun index => host.groups.getD index.val 0 }
        port := port
      }

/-- An address as the operating system gives it. -/
def SocketAddress.ofSystem : Std.Net.SocketAddress → SocketAddress
  | .v4 address =>
      let octets := address.addr.octets
      .overIPv4
        { octet0 := octets[0], octet1 := octets[1], octet2 := octets[2], octet3 := octets[3] }
        address.port
  | .v6 address => .overIPv6 { groups := address.addr.segments.toList } 0 address.port

namespace Link

/-- The most bytes that are received at once. -/
def receiveSize : UInt64 := 65536

/-- Start to receive on a connection that was accepted. -/
def ofHandle (handle : TCP.Socket) : IO Link := do
  handle.noDelay
  return {
    peer := .ofSystem (← handle.getPeerName)
    handle := handle
    receiving := ← handle.recv? receiveSize
    sending? := none
  }

/-- What was received since the last time, and the link that goes on receiving. -/
def receive (link : Link) : IO (List Arrival × Link) := do
  if !(← link.receiving.isResolved) then
    return ([], link)
  match ← IO.wait link.receiving.result? with
  | some (.ok (some data)) =>
      return ([.bytes data.data.toList],
        { link with receiving := ← link.handle.recv? receiveSize })
  | some (.ok none) | none => return ([.endOfStream], link)
  | some (.error _) => return ([.failure .connectionReset], link)

/-- What the next write meets: no room as long as the last one is under way. -/
def grants (link : Link) : IO (List Grant) := do
  match link.sending? with
  | none => return []
  | some sending =>
      if !(← sending.isResolved) then
        return [.wouldBlock]
      match ← IO.wait sending.result? with
      | some (.ok ()) => return []
      | some (.error _) | none => return [.failure .brokenPipe]

def send (link : Link) (data : Bytes) : IO Link := do
  if data.isEmpty then
    return link
  return { link with sending? := some (← link.handle.send #[ByteArray.mk data.toArray]) }

/-- End a connection; one that ends in order is shut down behind its last bytes. -/
def finish (link : Link) (ending : Ending) : IO Unit := do
  link.handle.cancelRecv
  match ending with
  | .closed => discard link.handle.shutdown
  | .aborted | .timedOut => return

end Link

namespace Endpoint

/-- Connections that may wait to be accepted. -/
def backlog : UInt32 := 128

def listen (address : SocketAddress) : IO Endpoint := do
  let listener ← TCP.Socket.new
  listener.bind address.toSystem
  listener.listen backlog
  return { listener := listener, links := [] }

/-- The connections that wait to be accepted. -/
def acceptAll (endpoint : Endpoint) : IO (List Link) := do
  let mut links : List Link := []
  repeat
    match ← endpoint.listener.tryAccept with
    | .ok (some handle) => links := links ++ [← Link.ofHandle handle]
    | .ok none | .error _ => break
  return links

/-- Bring what arrived on the links to the channels of a switchboard. -/
def deliver
    (endpoint : Endpoint)
    (switchboard : Switchboard σ) :
    IO (Endpoint × Switchboard σ) := do
  let mut links : List Link := []
  let mut channels := switchboard.channels
  for link in endpoint.links do
    let (arrivals, link) ← link.receive
    let grants ← link.grants
    links := links ++ [link]
    channels := channels.map fun channel =>
      if channel.peer? = some link.peer then
        { channel with socket? := channel.socket?.map fun socket =>
            { socket.deliver arrivals with grants := grants } }
      else
        channel
  return ({ endpoint with links := links }, { switchboard with channels := channels })

/-- What the next pass of a switchboard finds. -/
def gather
    (endpoint : Endpoint)
    (switchboard : Switchboard σ) :
    IO (Endpoint × Switchboard σ × PassInput) := do
  let accepting ← IO.monoNanosNow
  let newLinks ← endpoint.acceptAll
  let (endpoint, switchboard) ← endpoint.deliver switchboard
  let checking ← IO.monoNanosNow
  let events := (List.range switchboard.channels.length).map fun slot =>
    { slot := slot, readable := true, writable := true }
  let input : PassInput := {
    clock := { accepting := accepting, checking := checking, moving := checking }
    incoming := newLinks.map fun link => .connection .fresh link.peer true
    report := .ready events
  }
  return ({ endpoint with links := endpoint.links ++ newLinks }, switchboard, input)

/-- Carry out what a pass decided: send what was written, and end what ended. -/
def settle
    (endpoint : Endpoint)
    (switchboard : Switchboard σ)
    (departures : List Departure) :
    IO (Endpoint × Switchboard σ) := do
  let mut links : List Link := []
  for link in endpoint.links do
    match departures.find? fun departure => departure.peer? = some link.peer with
    | some departure =>
        let link ← link.send (departure.socket?.elim [] Socket.sent)
        link.finish departure.ending
    | none =>
        match switchboard.channels.find? fun channel => channel.peer? = some link.peer with
        | some channel => links := links ++ [← link.send (channel.socket?.elim [] Socket.sent)]
        | none => link.finish .aborted
  let channels := switchboard.channels.map fun channel =>
    { channel with socket? := channel.socket?.map fun socket => { socket with sent := [] } }
  return ({ endpoint with links := links }, { switchboard with channels := channels })

end Endpoint

/-- The exit code of a program that a fault stopped. -/
def faultCode : UInt32 := 101

/-- The result of a checked computation; a fault ends the program. -/
def orFault (result : Checked α) : ExceptT UInt32 IO α :=
  match result with
  | .ok value => return value
  | .error _ => throw faultCode

/-- How long the durations of ticks are summed up, in nanoseconds. -/
def summaryInterval : Nat := Nanoseconds.ofSeconds 5

/-- Both services and their endpoints. -/
structure Running where
  services : Services
  login : Endpoint
  game : Endpoint
  summaryStart : Nat

namespace Running

/-- One pass of both services. -/
def pass (running : Running) : ExceptT UInt32 IO Running := do
  let (loginEndpoint, login, loginInput) ← running.login.gather running.services.login
  let (gameEndpoint, game, gameInput) ← running.game.gather running.services.game
  let services := { running.services with login := login, game := game }
  let after ← orFault (services.pass { login := loginInput, game := gameInput })
  match after.outcome with
  | .error _ => throw Report.failure.code
  | .ok () =>
      let (loginEndpoint, login) ← loginEndpoint.settle after.services.login after.loginDepartures
      let (gameEndpoint, game) ← gameEndpoint.settle after.services.game after.gameDepartures
      return { running with
        services := { after.services with login := login, game := game }
        login := loginEndpoint
        game := gameEndpoint }

def tick (running : Running) : ExceptT UInt32 IO Running := do
  let start ← IO.monoNanosNow
  let ticker := running.services.ticker.begin
  let running ← { running with services := { running.services with ticker := ticker } }.pass
  let now ← IO.monoNanosNow
  let ticker ← orFault (running.services.ticker.finish (now - start))
  if now - running.summaryStart < summaryInterval then
    return { running with services := { running.services with ticker := ticker } }
  return { running with
    services := { running.services with ticker := ticker.restartSummary }
    summaryStart := now }

/-- Tick until the time is over. -/
def runUntil (deadline? : Option Nat) (start : Running) : ExceptT UInt32 IO Unit := do
  let mut running := start
  repeat
    let now ← IO.monoNanosNow
    if deadline?.any (· ≤ now) then
      return
    let ticker := running.services.ticker.advance now
    running := { running with services := { running.services with ticker := ticker } }
    if ticker.isDue then
      running ← running.tick
    else
      IO.sleep (UInt32.ofNat (ticker.timeToNext now / Nanoseconds.ofMilliseconds 1 + 1))

end Running

/-- The reason why the operating system refused something. -/
def refusalReason : IO.Error → String
  | .noFileOrDirectory _ code reason | .interrupted _ code reason
  | .alreadyExists _ code reason | .invalidArgument _ code reason
  | .permissionDenied _ code reason | .resourceExhausted _ code reason
  | .inappropriateType _ code reason | .noSuchThing _ code reason
  | .otherError code reason | .resourceBusy code reason | .resourceVanished code reason
  | .unsupportedOperation code reason | .hardwareFault code reason
  | .unsatisfiedConstraints code reason | .illegalOperation code reason
  | .protocolError code reason | .timeExpired code reason => s!"{reason} (os error {code})"
  | .unexpectedEof => "unexpected end of file"
  | .userError reason => reason

/-- The bytes in a file. -/
def readContents (path : String) : IO ByteArray := do
  let handle ← IO.FS.Handle.mk path .read
  handle.readBinToEnd

/-- The text in a file, or why there is none. -/
def readText (path : String) : IO (Except String String) := do
  match ← (readContents path).toBaseIO with
  | .error error => return .error (refusalReason error)
  | .ok contents =>
      match String.fromUTF8? contents with
      | some text => return .ok text
      | none => return .error "stream did not contain valid UTF-8"

def serve (options : RunOptions) (config : Configuration) : ExceptT UInt32 IO Unit := do
  let login ← (Endpoint.listen config.login.bind).toBaseIO
  let game ← (Endpoint.listen config.game.bind).toBaseIO
  let refusal? := fun (address : SocketAddress) (listened : Except IO.Error Endpoint) =>
    match listened with
    | .ok _ => none
    | .error error => some (address, refusalReason error)
  let refusals :=
    [refusal? config.login.bind login, refusal? config.game.bind game].filterMap id
  let host : Host := { bindRefusal? := fun address => refusals.lookup address, isReachable := true }
  let now ← IO.monoNanosNow
  match ← orFault (Services.start host now config), login, game with
  | .ok services, .ok login, .ok game =>
      let running : Running := {
        services := services
        login := login
        game := game
        summaryStart := now
      }
      running.runUntil (options.duration?.map fun seconds => now + Nanoseconds.ofSeconds seconds)
  | _, _, _ => throw Report.failure.code

/-- Print a report; answers the exit code. -/
def Report.print (report : Report) : IO UInt32 := do
  IO.print report.output
  IO.eprint report.errors
  return report.code

/-- The whole program; answers the exit code. -/
def run (arguments : List String) : ExceptT UInt32 IO UInt32 := do
  let file ← match Command.ofArguments arguments with
    | .ok (.run { configPath? := some path, .. }) => readText path
    | _ => pure (.error "")
  match ← orFault (Preparation.ofArguments (fun _ => file) arguments) with
  | .finished report => report.print
  | .ready options config => do
      serve options config
      return Report.success.code

end Gatehouse

/-- Run the program with its arguments. -/
def main (arguments : List String) : IO UInt32 := do
  match ← (Gatehouse.run arguments).run with
  | .ok code => return code
  | .error code => return code
