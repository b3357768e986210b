import Gatehouse.Text.Hexadecimal

namespace Gatehouse

/-!
# Numerals in network addresses

Unsigned numerals at the front of a list of characters, with a radix, an upper
bound and either a limit on the number of digits or none.
-/

namespace Net

/-- The digits at the front of the characters, and what follows them. -/
def spanDigits (radix : Nat) : List Char → List Nat × List Char
  | [] => ([], [])
  | char :: rest =>
      match Hexadecimal.valueBelow? radix char with
      | some digit =>
          let (digits, after) := spanDigits radix rest
          (digit :: digits, after)
      | none => ([], char :: rest)

/-- What a numeral has to satisfy. -/
structure NumeralRule where
  radix : Nat
  /-- The least number that is too large. -/
  bound : Nat
  maxDigits? : Option Nat
  /-- Whether zeros may stand in front. -/
  leadingZeros : Bool

/-- Read a numeral and answer what follows it. -/
def numeral? (rule : NumeralRule) (chars : List Char) : Option (Nat × List Char) :=
  let (digits, after) := spanDigits rule.radix chars
  let value := digits.foldl (fun value digit => rule.radix * value + digit) 0
  if digits.isEmpty then none
  else if rule.maxDigits?.any (· < digits.length) then none
  else if !rule.leadingZeros && digits.head? == some 0 && 1 < digits.length then none
  else if rule.bound ≤ value then none
  else some (value, after)

/-- Read the given character and answer what follows it. -/
def expect? (char : Char) : List Char → Option (List Char)
  | [] => none
  | first :: rest => if first = char then some rest else none

end Net

end Gatehouse
