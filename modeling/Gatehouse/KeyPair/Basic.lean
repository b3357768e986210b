import Gatehouse.Bytes
import Gatehouse.Modular
import Gatehouse.KeyPair.Component

namespace Gatehouse

/-!
# The service key pair

Textbook RSA on integers of at most 1024 bits. A key is made from two primes and
a public exponent; that the primes are prime is taken on trust. The private
operation works modulo each prime and recombines.

Both operations work on the front of a buffer: they read a big-endian integer
there and write the fewest bytes of the result over it. A result of zero has no
bytes and writes nothing; a result wider than the buffer writes nothing either.
-/

/-- A key, with the values that the private operation needs. -/
structure KeyPair where
  firstPrime : Nat
  secondPrime : Nat
  modulus : Nat
  exponent : Nat
  firstExponent : Nat
  secondExponent : Nat
  coefficient : Nat
deriving DecidableEq, Repr

/-- Why a key cannot be made or used. -/
inductive KeyError where
  /-- The result of an operation is wider than the buffer it goes to. -/
  | outputTooLarge (needed capacity : Nat)
  /-- The public exponent is out of range or shares a factor with the order. -/
  | invalidExponent
  /-- A prime is too small, or the second has no inverse modulo the first. -/
  | notInvertible
  /-- A written component is not a decimal integer; carries the start of its text. -/
  | invalidComponent (start : String)
  /-- The modulus has too many bits. -/
  | tooLarge (bits : Nat)
deriving DecidableEq, Repr

/-- The message for a caller. -/
def KeyError.message : KeyError → String
  | .outputTooLarge needed capacity => s!"output needs {needed} bytes, buffer holds {capacity}"
  | .invalidExponent => "public exponent is not valid for these primes"
  | .notInvertible => "value has no modular inverse"
  | .invalidComponent start => s!"key component is not a decimal integer: {start}"
  | .tooLarge bits => s!"modulus is {bits} bits, at most 1024 are supported"

namespace KeyPair

/-- The most bits a modulus may have. -/
def maxBitLength : Nat := 1024

/-- Make a key from two primes and a public exponent. -/
def ofPrimes
    (firstPrime secondPrime exponent : Nat) :
    Except KeyError KeyPair := do
  if firstPrime ≤ 1 ∨ secondPrime ≤ 1 then
    throw .notInvertible
  let modulus := firstPrime * secondPrime
  if maxBitLength < Modular.bitLength modulus then
    throw (.tooLarge (Modular.bitLength modulus))
  let order := Nat.lcm (firstPrime - 1) (secondPrime - 1)
  if order ≤ exponent ∨ exponent = 0 ∨ Nat.gcd exponent order ≠ 1 then
    throw .invalidExponent
  let some privateExponent := Modular.inverse? exponent order | throw .notInvertible
  let some coefficient := Modular.inverse? secondPrime firstPrime | throw .notInvertible
  return {
    firstPrime := firstPrime
    secondPrime := secondPrime
    modulus := modulus
    exponent := exponent
    firstExponent := privateExponent % (firstPrime - 1)
    secondExponent := privateExponent % (secondPrime - 1)
    coefficient := coefficient
  }

/-- Read one written component. -/
def readComponent (text : String) : Except KeyError Nat :=
  let chars := Text.trimBlank text.toList
  match component? chars with
  | some value => .ok value
  | none => .error (.invalidComponent (String.ofList (chars.take 16)))

/-- Make a key from written components. -/
def ofDecimal (firstPrime secondPrime exponent : String) : Except KeyError KeyPair := do
  let first ← readComponent firstPrime
  let second ← readComponent secondPrime
  let exponent ← readComponent exponent
  ofPrimes first second exponent

/-- The key that clients carry unless the service is provisioned with another one. -/
def standard : Except KeyError KeyPair :=
  ofPrimes
    14299623962416399520070177382898895550795403345466153217470516082934737582776038882967213386204600674145392845853859217990626450972452084065728686565928113
    7630979195970404721891201847792002125535401292779123937207447574596692788513647179235335529307251350570728407373705564708871762033017096809910315212884101
    65537

/-- Bits of the modulus. -/
def bitLength (key : KeyPair) : Nat :=
  Modular.bitLength key.modulus

/-- Bytes of the modulus. -/
def byteLength (key : KeyPair) : Nat :=
  (key.bitLength + 7) / 8

/-- The public operation on integers. -/
def publicPower (key : KeyPair) (value : Nat) : Nat :=
  Modular.power value key.exponent key.modulus

/-- The private operation on integers, modulo each prime and then recombined. -/
def privatePower (key : KeyPair) (value : Nat) : Nat :=
  let first := Modular.power value key.firstExponent key.firstPrime
  let second := Modular.power value key.secondExponent key.secondPrime
  let quotient :=
    (first + key.firstPrime - second % key.firstPrime) * key.coefficient % key.firstPrime
  second + quotient * key.secondPrime

/-- Write the fewest bytes of `value` over the front of the buffer; answers their number. -/
def writeInteger (value : Nat) (buffer : Bytes) : Attempt KeyError Nat :=
  let bytes := Bytes.bigEndian value
  if bytes.length ≤ buffer.length then
    { outcome := .ok bytes.length, buffer := buffer.overwrite 0 bytes }
  else
    { outcome := .error (.outputTooLarge bytes.length buffer.length), buffer := buffer }

/-- Apply the public operation to the integer in the first `length` bytes. -/
def encode (key : KeyPair) (buffer : Bytes) (length : Nat) : Attempt KeyError Nat :=
  writeInteger (key.publicPower (Bytes.ofBigEndian (buffer.take length))) buffer

/-- Apply the private operation to the integer in the first `length` bytes. -/
def decode (key : KeyPair) (buffer : Bytes) (length : Nat) : Attempt KeyError Nat :=
  writeInteger (key.privatePower (Bytes.ofBigEndian (buffer.take length))) buffer

/-- What a log may show of a key. -/
def redacted (key : KeyPair) : String :=
  s!"RsaKey \x7b bits: {key.bitLength}, e: {key.exponent}, .. \x7d"

end KeyPair

end Gatehouse
