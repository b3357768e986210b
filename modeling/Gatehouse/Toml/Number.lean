import Gatehouse.Toml.Text

namespace Gatehouse

/-!
# Numbers

Integers in decimal with an optional sign and no leading zeros, or in
hexadecimal, octal or binary without a sign; floating-point numbers with a
fraction, an exponent or both; infinity and NaN. Single underscores may stand
between digits. Integers have to fit 64 bits with a sign, and a positive number
too large for a 64-bit floating-point number is refused.
-/

namespace Toml

/-- A number, and what follows it. -/
inductive Number where
  | integer (value : Int)
  /-- A floating-point number is kept as written. -/
  | float
deriving DecidableEq, Repr

/-- The digits of a numeral after its first digit, with single underscores between digits. -/
def moreDigits? (digit? : Char → Option Nat) : List Char → Option (List Nat × List Char)
  | [] => some ([], [])
  | '_' :: char :: rest => do
      let digit ← digit? char
      let (digits, after) ← moreDigits? digit? rest
      return (digit :: digits, after)
  | char :: rest =>
      match digit? char with
      | some digit => do
          let (digits, after) ← moreDigits? digit? rest
          return (digit :: digits, after)
      | none => if char = '_' then none else some ([], char :: rest)

/-- The digits of a numeral. -/
def digits? (digit? : Char → Option Nat) : List Char → Option (List Nat × List Char)
  | [] => none
  | char :: rest => do
      let digit ← digit? char
      let (digits, after) ← moreDigits? digit? rest
      return (digit :: digits, after)

/-- The number that digits spell. -/
def digitsValue (radix : Nat) (digits : List Nat) : Nat :=
  digits.foldl (fun value digit => radix * value + digit) 0

/-- A sign, if there is one; the flag says whether it is a minus. -/
def splitSign : List Char → Bool × List Char
  | '+' :: rest => (false, rest)
  | '-' :: rest => (true, rest)
  | chars => (false, chars)

/-- An integer that fits 64 bits with a sign. -/
def fitting? (negative : Bool) (magnitude : Nat) : Option Int :=
  if negative then
    if magnitude ≤ 9223372036854775808 then some (-Int.ofNat magnitude) else none
  else
    if magnitude < 9223372036854775808 then some (Int.ofNat magnitude) else none

/-- An integer after the letter that names its radix. -/
def radixInteger? (radix : Nat) (chars : List Char) : Option (Int × List Char) := do
  let (digits, rest) ← digits? (Hexadecimal.valueBelow? radix) chars
  return (← fitting? false (digitsValue radix digits), rest)

/-- The digits before a fraction or exponent: no leading zeros. -/
def wholeDigits? : List Char → Option (List Nat × List Char)
  | '0' :: rest => some ([0], rest)
  | chars => digits? (Hexadecimal.valueBelow? 10) chars

/-- A fraction, if a point starts one. -/
def fraction? (chars : List Char) : Option (List Nat × List Char) :=
  match chars with
  | '.' :: rest => digits? (Hexadecimal.valueBelow? 10) rest
  | _ => some ([], chars)

/-- An exponent, if a letter starts one. -/
def exponent? (chars : List Char) : Option (Int × List Char) :=
  match chars with
  | 'e' :: rest | 'E' :: rest => do
      let (negative, rest) := splitSign rest
      let (digits, rest) ← digits? (Hexadecimal.valueBelow? 10) rest
      let magnitude := Int.ofNat (digitsValue 10 digits)
      return (if negative then -magnitude else magnitude, rest)
  | _ => some (0, chars)

/-- Half a unit above the largest 64-bit floating-point number. -/
def floatLimit : Nat := Nat.pow 2 1024 - Nat.pow 2 970

/-- Whether `mantissa` times a power of ten rounds to infinity. -/
def roundsToInfinity (mantissa : Nat) (exponent : Int) : Bool :=
  let magnitude := Int.ofNat (Nat.toDigits 10 mantissa).length + exponent
  if mantissa = 0 ∨ magnitude < 300 then false
  else if 310 < magnitude then true
  else if 0 ≤ exponent then floatLimit ≤ mantissa * Nat.pow 10 exponent.toNat
  else floatLimit * Nat.pow 10 (-exponent).toNat ≤ mantissa

/-- Whether a fraction or an exponent starts here. -/
def continuesAsFloat : List Char → Bool
  | '.' :: _ | 'e' :: _ | 'E' :: _ => true
  | _ => false

def decimal? (chars : List Char) : Option (Number × List Char) := do
  let (negative, unsigned) := splitSign chars
  let (whole, rest) ← wholeDigits? unsigned
  if continuesAsFloat rest then
    let (fraction, rest) ← fraction? rest
    let (exponent, rest) ← exponent? rest
    let mantissa := digitsValue 10 (whole ++ fraction)
    guard (negative || !roundsToInfinity mantissa (exponent - Int.ofNat fraction.length))
    return (.float, rest)
  else
    return (.integer (← fitting? negative (digitsValue 10 whole)), rest)

/-- Infinity or NaN behind an optional sign. -/
def specialFloat? (chars : List Char) : Option (List Char) :=
  match (splitSign chars).2 with
  | 'i' :: 'n' :: 'f' :: rest => some rest
  | 'n' :: 'a' :: 'n' :: rest => some rest
  | _ => none

/-- Read a number. -/
def number? (chars : List Char) : Option (Number × List Char) :=
  match chars with
  | '0' :: 'x' :: rest => (radixInteger? 16 rest).map fun (value, rest) => (.integer value, rest)
  | '0' :: 'o' :: rest => (radixInteger? 8 rest).map fun (value, rest) => (.integer value, rest)
  | '0' :: 'b' :: rest => (radixInteger? 2 rest).map fun (value, rest) => (.integer value, rest)
  | _ =>
      match specialFloat? chars with
      | some rest => some (.float, rest)
      | none => decimal? chars

end Toml

end Gatehouse
