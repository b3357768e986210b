import Gatehouse.Transport.Socket
import Gatehouse.Net.SocketAddress

namespace Gatehouse

/-!
# The host

What the machine that the services run on lets them do, and why the network can
stop them. An address is listened on by one service at a time.
-/

/-- What a machine allows. -/
structure Host where
  /-- Why an address cannot be listened on at all, if it cannot. -/
  bindRefusal? : SocketAddress → Option String
  /-- Whether a client can connect to an address that is listened on. -/
  isReachable : Bool
  /-- The addresses that are listened on. -/
  listening : List SocketAddress := []

/-- What stops the services from listening. -/
inductive NetworkFailure where
  /-- An address cannot be listened on. -/
  | bind (address : SocketAddress) (reason : String)
  /-- Sockets cannot be asked whether they are ready. -/
  | readiness (reason : String)
  | io (reason : String)
deriving DecidableEq, Repr

/-- The message for the operator. -/
def NetworkFailure.message : NetworkFailure → String
  | .bind address reason => s!"failed to bind {address.render}: {reason}"
  | .readiness reason => s!"poll failed: {reason}"
  | .io reason => s!"I/O error: {reason}"

namespace Host

/-- Ports below this one are for privileged programs. -/
def firstOpenPort : UInt16 := 1024

/-- Why the machine `isolated` refuses an address, if it does. -/
def isolatedRefusal? (address : SocketAddress) : Option String :=
  if 0 < address.port ∧ address.port < firstOpenPort then
    some "Permission denied (os error 13)"
  else if address.servedIPv4?.isSome then
    none
  else
    some "Cannot assign requested address (os error 99)"

/--
A machine without privileges and with no interface but an unused one: every IPv4
address can be listened on at an open port, an IPv6 address only as far as it
serves IPv4, and nobody can connect.
-/
def isolated : Host where
  bindRefusal? := isolatedRefusal?
  isReachable := false

/-- Why an address cannot be listened on now, if it cannot. -/
def refusal? (host : Host) (address : SocketAddress) : Option String :=
  match host.bindRefusal? address with
  | some reason => some reason
  | none =>
      if host.listening.any address.collidesWith then
        some "Address already in use (os error 98)"
      else
        none

def listen (host : Host) (address : SocketAddress) : Except NetworkFailure Host :=
  match host.refusal? address with
  | none => .ok { host with listening := address :: host.listening }
  | some reason => .error (.bind address reason)

/-- Connect to a service on the machine, which has to succeed. -/
def connect (host : Host) : Checked Socket :=
  if host.isReachable then .ok .fresh else .error .refused

end Host

end Gatehouse
