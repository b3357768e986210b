import Gatehouse.Net.IPv6

namespace Gatehouse

/-!
# Socket addresses

A host and a port. An IPv6 host stands in brackets and may carry a scope behind
a percent sign; scope zero is not written.
-/

/-- A host and a port. -/
inductive SocketAddress where
  | overIPv4 (host : IPv4) (port : UInt16)
  | overIPv6 (host : IPv6) (scope : UInt32) (port : UInt16)
deriving DecidableEq, Repr

namespace SocketAddress

/-- The rule for a written port. -/
def portRule : Net.NumeralRule where
  radix := 10
  bound := 65536
  maxDigits? := none
  leadingZeros := true

/-- The rule for a written scope. -/
def scopeRule : Net.NumeralRule where
  radix := 10
  bound := 4294967296
  maxDigits? := none
  leadingZeros := true

/-- Read a colon and a port. -/
def scanPort? (chars : List Char) : Option (UInt16 × List Char) := do
  let (port, rest) ← Net.numeral? portRule (← Net.expect? ':' chars)
  return (UInt16.ofNat port, rest)

/-- Read a percent sign and a scope; without them the scope is zero. -/
def scanScope (chars : List Char) : UInt32 × List Char :=
  let scope? := do Net.numeral? scopeRule (← Net.expect? '%' chars)
  match scope? with
  | some (scope, rest) => (UInt32.ofNat scope, rest)
  | none => (0, chars)

/-- Read an IPv4 host and a port. -/
def scanOverIPv4? (chars : List Char) : Option (SocketAddress × List Char) := do
  let (host, rest) ← IPv4.scan? chars
  let (port, rest) ← scanPort? rest
  return (.overIPv4 host port, rest)

/-- Read a bracketed IPv6 host and a port. -/
def scanOverIPv6? (chars : List Char) : Option (SocketAddress × List Char) := do
  let (host, rest) ← IPv6.scan? (← Net.expect? '[' chars)
  let (scope, rest) := scanScope rest
  let (port, rest) ← scanPort? (← Net.expect? ']' rest)
  return (.overIPv6 host scope port, rest)

/-- The socket address that a whole text spells. -/
def ofText? (text : String) : Option SocketAddress :=
  match (scanOverIPv4? text.toList).or (scanOverIPv6? text.toList) with
  | some (address, []) => some address
  | _ => none

def port : SocketAddress → UInt16
  | .overIPv4 _ port => port
  | .overIPv6 _ _ port => port

/-- The IPv4 address that a listener serves, if it serves one. -/
def servedIPv4? : SocketAddress → Option IPv4
  | .overIPv4 host _ => some host
  | .overIPv6 host _ _ => host.servedIPv4?

/-- Whether two listeners on these hosts could be meant by the same client. -/
def hostsOverlap : SocketAddress → SocketAddress → Bool
  | .overIPv6 host _ _, .overIPv6 other _ _ => host.overlaps other
  | address, other =>
      match address.servedIPv4?, other.servedIPv4? with
      | some inner, some otherInner => inner.overlaps otherInner
      | _, _ => false

/--
Whether one listener keeps another from listening. Port zero asks for any free
port and never collides.
-/
def collidesWith (address other : SocketAddress) : Bool :=
  address.port ≠ 0 && address.port = other.port && address.hostsOverlap other

/-- The written form. -/
def render : SocketAddress → String
  | .overIPv4 host port => host.render ++ ":" ++ Nat.repr port.toNat
  | .overIPv6 host scope port =>
      let scopeText := if scope = 0 then "" else "%" ++ Nat.repr scope.toNat
      "[" ++ host.render ++ scopeText ++ "]:" ++ Nat.repr port.toNat

end SocketAddress

end Gatehouse
