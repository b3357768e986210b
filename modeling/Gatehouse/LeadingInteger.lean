import Gatehouse.Bytes

namespace Gatehouse

/-!
# The integer at the front of a text

Blanks (space, tab, line feed, form feed, carriage return), then at most one
sign, then as many digits as follow; without digits the value is zero. The
value wraps around at 32 bits. It is given twice: by the value of all digits,
and digit by digit with every step checked.
-/

namespace LeadingInteger

/-- Space, tab, line feed, form feed or carriage return. -/
def isBlank (byte : UInt8) : Bool :=
  byte = 32 || byte = 9 || byte = 10 || byte = 12 || byte = 13

/-- A decimal digit. -/
def isDigit (byte : UInt8) : Bool :=
  48 ≤ byte && byte ≤ 57

/-- Take one sign off the front; the flag says whether it was a minus. -/
def splitSign : Bytes → Bool × Bytes
  | 43 :: rest => (false, rest)
  | 45 :: rest => (true, rest)
  | text => (false, text)

/-- The value of digits, modulo 2³². -/
def digitsValue (digits : Bytes) : UInt32 :=
  digits.foldl (fun value digit => value * 10 + (digit - 48).toUInt32) 0

/-- The integer at the front of a text. -/
def ofBytes (text : Bytes) : Int32 :=
  let (negative, rest) := splitSign (text.dropWhile isBlank)
  let magnitude := (digitsValue (rest.takeWhile isDigit)).toInt32
  if negative then -magnitude else magnitude

/-! ## Digit by digit -/

/-- The value of one digit. -/
def digitValue (digit : UInt8) : Checked Int32 := do
  return Int32.ofNat (← Size.sub digit.toNat 48)

/-- A value with one more digit behind it. -/
def appendDigit (value : Int32) (digit : UInt8) : Checked Int32 := do
  return value * 10 + (← digitValue digit)

/-- The integer at the front of a text, as its digits are read one by one. -/
def scan (text : Bytes) : Checked Int32 := do
  let (negative, rest) := splitSign (text.dropWhile isBlank)
  let magnitude ← (rest.takeWhile isDigit).foldlM appendDigit 0
  return if negative then -magnitude else magnitude

end LeadingInteger

end Gatehouse
