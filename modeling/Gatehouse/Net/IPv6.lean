import Gatehouse.Net.IPv4

namespace Gatehouse

/-!
# IPv6 addresses

Eight 16-bit groups, written in hexadecimal with colons between them. Two colons
stand for one or more groups of zero, once in an address, and the last two
groups may be written as an IPv4 address.

The rendered form shortens the first of the longest runs of zero groups, if it
is longer than one group, and writes an IPv4-mapped address with its IPv4 part.
-/

/-- An IPv6 address. -/
structure IPv6 where
  /-- Eight groups. -/
  groups : List UInt16
deriving DecidableEq, Repr

namespace IPv6

/-- The rule for a written group. -/
def groupRule : Net.NumeralRule where
  radix := 16
  bound := 65536
  maxDigits? := some 4
  leadingZeros := true

/-- The groups read from one side of the double colon. -/
structure Side where
  groups : List UInt16
  /-- Whether the last two groups were written as an IPv4 address. -/
  endsInIPv4 : Bool

/-- A colon unless this is the first group of its side. -/
def scanSeparator? (isFirst : Bool) (chars : List Char) : Option (List Char) :=
  if isFirst then some chars else Net.expect? ':' chars

/-- The two groups that an IPv4 address fills. -/
def ofIPv4 (address : IPv4) : List UInt16 :=
  [UInt16.ofNat (256 * address.octet0.toNat + address.octet1.toNat),
    UInt16.ofNat (256 * address.octet2.toNat + address.octet3.toNat)]

/-- Read at most `limit` groups; stops in front of the first thing that is not one. -/
def scanSide (isFirst : Bool) : (limit : Nat) → List Char → Side × List Char
  | 0, chars => ({ groups := [], endsInIPv4 := false }, chars)
  | limit + 1, chars =>
      let embedded? := do
        guard (0 < limit)
        IPv4.scan? (← scanSeparator? isFirst chars)
      match embedded? with
      | some (address, rest) => ({ groups := ofIPv4 address, endsInIPv4 := true }, rest)
      | none =>
          let group? := do Net.numeral? groupRule (← scanSeparator? isFirst chars)
          match group? with
          | none => ({ groups := [], endsInIPv4 := false }, chars)
          | some (group, rest) =>
              let (side, after) := scanSide false limit rest
              ({ side with groups := UInt16.ofNat group :: side.groups }, after)

/-- Read an address and answer what follows it. -/
def scan? (chars : List Char) : Option (IPv6 × List Char) := do
  let (front, rest) := scanSide true 8 chars
  if front.groups.length = 8 then
    return ({ groups := front.groups }, rest)
  guard (!front.endsInIPv4)
  let rest ← Net.expect? ':' (← Net.expect? ':' rest)
  let (back, rest) := scanSide true (7 - front.groups.length) rest
  let gap := List.replicate (8 - front.groups.length - back.groups.length) (0 : UInt16)
  return ({ groups := front.groups ++ gap ++ back.groups }, rest)

/-- A run of zero groups. -/
structure ZeroRun where
  start : Nat
  length : Nat

/-- The first of the longest runs, from group `index` on, given the run that ends there. -/
def longestZeroRun (index : Nat) (current longest : ZeroRun) : List UInt16 → ZeroRun
  | [] => longest
  | group :: rest =>
      if group = 0 then
        let current : ZeroRun :=
          { start := if current.length = 0 then index else current.start
            length := current.length + 1 }
        let longest := if longest.length < current.length then current else longest
        longestZeroRun (index + 1) current longest rest
      else
        longestZeroRun (index + 1) { start := 0, length := 0 } longest rest

/-- Groups with colons between them. -/
def renderGroups (groups : List UInt16) : String :=
  ":".intercalate (groups.map fun group => String.ofList (Nat.toDigits 16 group.toNat))

/-- The IPv4 address that an IPv4-mapped address carries. -/
def mapped? (address : IPv6) : Option IPv4 :=
  match address.groups with
  | [0, 0, 0, 0, 0, 0xFFFF, high, low] =>
      some {
        octet0 := UInt8.ofNat (high.toNat / 256)
        octet1 := UInt8.ofNat high.toNat
        octet2 := UInt8.ofNat (low.toNat / 256)
        octet3 := UInt8.ofNat low.toNat
      }
  | _ => none

/-- The address that stands for every address of a machine, its IPv4 addresses included. -/
def unspecified : IPv6 where
  groups := [0, 0, 0, 0, 0, 0, 0, 0]

/-- The IPv4 address that a listener on this address serves too, if it serves one. -/
def servedIPv4? (address : IPv6) : Option IPv4 :=
  if address = unspecified then some .unspecified else address.mapped?

/-- Whether two listeners on these addresses could be meant by the same client. -/
def overlaps (address other : IPv6) : Bool :=
  match address.servedIPv4?, other.servedIPv4? with
  | some inner, some otherInner => inner.overlaps otherInner
  | _, _ => address = other || address = unspecified || other = unspecified

/-- The written form. -/
def render (address : IPv6) : String :=
  match address.mapped? with
  | some inner => "::ffff:" ++ inner.render
  | none =>
      let noRun : ZeroRun := { start := 0, length := 0 }
      let run := longestZeroRun 0 noRun noRun address.groups
      if 1 < run.length then
        renderGroups (address.groups.take run.start) ++ "::" ++
          renderGroups (address.groups.drop (run.start + run.length))
      else
        renderGroups address.groups

end IPv6

end Gatehouse
