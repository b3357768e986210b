import Gatehouse.Net.Numeral

namespace Gatehouse

/-!
# IPv4 addresses

Four octets, written in decimal with points between them and without leading
zeros.
-/

/-- An IPv4 address. -/
structure IPv4 where
  octet0 : UInt8
  octet1 : UInt8
  octet2 : UInt8
  octet3 : UInt8
deriving DecidableEq, Repr

namespace IPv4

/-- The rule for a written octet. -/
def octetRule : Net.NumeralRule where
  radix := 10
  bound := 256
  maxDigits? := some 3
  leadingZeros := false

/-- Read an octet. -/
def scanOctet? (chars : List Char) : Option (UInt8 × List Char) := do
  let (value, rest) ← Net.numeral? octetRule chars
  return (UInt8.ofNat value, rest)

/-- Read an address and answer what follows it. -/
def scan? (chars : List Char) : Option (IPv4 × List Char) := do
  let (octet0, rest) ← scanOctet? chars
  let (octet1, rest) ← scanOctet? (← Net.expect? '.' rest)
  let (octet2, rest) ← scanOctet? (← Net.expect? '.' rest)
  let (octet3, rest) ← scanOctet? (← Net.expect? '.' rest)
  return ({ octet0 := octet0, octet1 := octet1, octet2 := octet2, octet3 := octet3 }, rest)

/-- The address that a whole text spells. -/
def ofText? (text : String) : Option IPv4 :=
  match scan? text.toList with
  | some (address, []) => some address
  | _ => none

/-- The octets in order. -/
def octets (address : IPv4) : List UInt8 :=
  [address.octet0, address.octet1, address.octet2, address.octet3]

/-- The address that stands for every IPv4 address of a machine. -/
def unspecified : IPv4 where
  octet0 := 0
  octet1 := 0
  octet2 := 0
  octet3 := 0

/-- Whether two listeners on these addresses could be meant by the same client. -/
def overlaps (address other : IPv4) : Bool :=
  address = other || address = unspecified || other = unspecified

/-- The written form. -/
def render (address : IPv4) : String :=
  ".".intercalate (address.octets.map fun octet => Nat.repr octet.toNat)

end IPv4

end Gatehouse
