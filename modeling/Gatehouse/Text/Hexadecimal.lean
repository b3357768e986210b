import Gatehouse.Bytes

namespace Gatehouse

/-!
# Hexadecimal

Hexadecimal digits, numbers behind `0x`, and byte strings as two digits a byte.
Digits are written in lower case and read in either case.
-/

namespace Hexadecimal

/-- The digits, by their values. -/
def digits : List Char :=
  ['0', '1', '2', '3', '4', '5', '6', '7', '8', '9', 'a', 'b', 'c', 'd', 'e', 'f']

/-- The digit of a value below sixteen. -/
def digit (value : Nat) : Char :=
  digits.getD value '0'

/-- The value of a digit. -/
def value? (char : Char) : Option Nat :=
  let code := char.toNat
  if char.isDigit then some (code - '0'.toNat)
  else if 'a'.toNat ≤ code ∧ code ≤ 'f'.toNat then some (code - 'a'.toNat + 10)
  else if 'A'.toNat ≤ code ∧ code ≤ 'F'.toNat then some (code - 'A'.toNat + 10)
  else none

/-- The value of a digit in a radix of at most sixteen. -/
def valueBelow? (radix : Nat) (char : Char) : Option Nat :=
  (value? char).filter (· < radix)

/-- The number that some digits spell. -/
def number? (chars : List Char) : Option Nat := do
  return (← chars.mapM value?).foldl (fun number value => 16 * number + value) 0

/-- A number of at least `width` digits, behind `0x`. -/
def ofNumber (width number : Nat) : String :=
  let shown := Nat.toDigits 16 number
  String.ofList ('0' :: 'x' :: (List.replicate (width - shown.length) '0' ++ shown))

/-- The two digits of a byte. -/
def ofByte (byte : UInt8) : Char × Char :=
  (digit (byte.toNat / 16), digit (byte.toNat % 16))

/-- The byte that two digits spell. -/
def byte? (high low : Char) : Option UInt8 := do
  return UInt8.ofNat (16 * (← value? high) + (← value? low))

/-- A byte string as two digits a byte. -/
def ofBytes (bytes : Bytes) : String :=
  bytes.foldl (fun text byte => (text.push (ofByte byte).1).push (ofByte byte).2) ""

/-- Read pairs of digits onto the bytes read so far, the last one first. -/
def bytesOnto? (read : Bytes) : List Char → Option Bytes
  | [] => some read.reverse
  | [_] => none
  | high :: low :: rest => do bytesOnto? ((← byte? high low) :: read) rest

/-- The byte string that a text spells. -/
def bytes? (text : String) : Option Bytes :=
  bytesOnto? [] text.toList

end Hexadecimal

end Gatehouse
