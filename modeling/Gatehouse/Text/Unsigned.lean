namespace Gatehouse

/-!
# Unsigned numbers in text

Decimal digits with an optional plus sign in front, below a limit. Digits are
judged from left to right, so a number that is already too large is reported
before a later character that is no digit.
-/

namespace Text

/-- Why a text is not an unsigned number. -/
inductive UnsignedError where
  | empty
  | invalidDigit
  | tooLarge
deriving DecidableEq, Repr

/-- The message for a caller. -/
def UnsignedError.message : UnsignedError → String
  | .empty => "cannot parse integer from empty string"
  | .invalidDigit => "invalid digit found in string"
  | .tooLarge => "number too large to fit in target type"

/-- Read digits onto the number read so far. -/
def unsignedOnto (limit : Nat) : Nat → List Char → Except UnsignedError Nat
  | value, [] => .ok value
  | value, char :: rest =>
      if char.isDigit then
        let value := 10 * value + (char.toNat - '0'.toNat)
        if value < limit then unsignedOnto limit value rest else .error .tooLarge
      else
        .error .invalidDigit

/-- The number below `limit` that a text spells. -/
def unsigned (limit : Nat) (text : String) : Except UnsignedError Nat :=
  match text.toList with
  | [] => .error .empty
  | ['+'] => .error .invalidDigit
  | '+' :: digits => unsignedOnto limit 0 digits
  | digits => unsignedOnto limit 0 digits

end Text

end Gatehouse
