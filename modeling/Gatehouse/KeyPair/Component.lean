import Gatehouse.Text.Blank

namespace Gatehouse

/-!
# The written form of a key component

A component is written in decimal: blanks around it are dropped, one plus sign
may lead, and underscores may stand anywhere after the first digit.
-/

namespace KeyPair

/-- Read digits and underscores onto the number read so far. -/
def digitsOnto? : Nat → List Char → Option Nat
  | value, [] => some value
  | value, '_' :: rest => digitsOnto? value rest
  | value, char :: rest =>
      if char.isDigit then
        digitsOnto? (10 * value + (char.toNat - '0'.toNat)) rest
      else
        none

/-- Read digits with no sign; there has to be a first digit. -/
def digits? : List Char → Option Nat
  | [] => none
  | '_' :: _ => none
  | chars => digitsOnto? 0 chars

/-- Read a component that has no blanks around it. -/
def component? : List Char → Option Nat
  | '+' :: rest => digits? rest
  | chars => digits? chars

end KeyPair

end Gatehouse
